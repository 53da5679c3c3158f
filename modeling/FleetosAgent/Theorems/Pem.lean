import FleetosAgent.Client.Channels

/-! # The identity that a channel shows

The PEM that the agent writes is what the general writer of blocks writes at width 64, so a reader gets the chain and the
key back. -/

namespace FleetosAgent.Client
open Lib

variable {engine : Base64.Engine}

theorem toList_pushChunks (pem : String) (pieces : List (List Char)) :
    (pieces.foldl (fun pem chunk => (pem ++ .ofList chunk).push '\n') pem).toList = pem.toList ++ Pem.unlines pieces := by
  induction pieces generalizing pem with
  | nil => simp [Pem.unlines]
  | cons piece pieces ih =>
    rw [List.foldl_cons, ih]
    simp [Pem.unlines]

/-- A mark, a label and dashes make a line. -/
theorem toList_boundary (mark label : String) :
    (mark ++ label ++ "-----\n").toList = mark.toList ++ label.toList ++ Pem.dashes ++ ['\n'] := by
  have ending : "-----\n".toList = Pem.dashes ++ ['\n'] := by decide
  rw [String.toList_append, String.toList_append, ending, ← List.append_assoc]

/-- One turn appends the lines of one block. -/
theorem toList_pushPem (label pem : String) (der : List UInt8) :
    (pushPem engine label pem der).toList = pem.toList ++ Pem.unlines (Pem.Block.lines engine 64 ⟨label.toList, der⟩) := by
  have first : (s!"-----BEGIN {label}-----\n").toList = Pem.beginLine label.toList ++ ['\n'] := toList_boundary _ label
  have last : (s!"-----END {label}-----\n").toList = Pem.endLine label.toList ++ ['\n'] := toList_boundary _ label
  rw [pushPem, String.toList_append, toList_pushChunks, String.toList_append, first, last]
  simp [Pem.unlines, Pem.Block.lines]

/-- The blocks of the chain, each with the label. -/
def pemBlocks (label : String) (ders : List (List UInt8)) : List Pem.Block := ders.map fun der => ⟨label.toList, der⟩

theorem toList_foldl_pushPem (label pem : String) (ders : List (List UInt8)) :
    (ders.foldl (pushPem engine label) pem).toList = pem.toList ++ Pem.write engine 64 (pemBlocks label ders) := by
  induction ders generalizing pem with
  | nil => simp [pemBlocks, Pem.write, Pem.unlines]
  | cons der ders ih =>
    rw [List.foldl_cons, ih, toList_pushPem]
    simp [pemBlocks, Pem.write, Pem.unlines]

theorem toList_dersToPem (ders : List (List UInt8)) (label : String) :
    (dersToPem engine ders label).toList = Pem.write engine 64 (pemBlocks label ders) := by
  rw [dersToPem, toList_foldl_pushPem]
  rfl

theorem derToPem_eq (der : List UInt8) (label : String) : derToPem engine der label = dersToPem engine [der] label := rfl

section
variable {label : String} (plain : '\n' ∉ label.toList)
include plain

theorem newline_notMem_pemBlocks (ders : List (List UInt8)) : ∀ block ∈ pemBlocks label ders, '\n' ∉ block.label := by
  intro block hblock
  obtain ⟨der, -, rfl⟩ := List.mem_map.mp hblock
  exact plain

theorem read?_dersToPem (ders : List (List UInt8)) :
    Pem.read? engine (dersToPem engine ders label).toList = some (pemBlocks label ders) := by
  rw [toList_dersToPem, Pem.read?_write (by omega) (newline_notMem_pemBlocks plain ders)]

theorem line_length (short : label.toList.length ≤ 48) {ders : List (List UInt8)} {line : List Char}
    (h : line ∈ (dersToPem engine ders label).toList.splitOn '\n') : line.length ≤ 64 := by
  rw [toList_dersToPem] at h
  refine Pem.length_le_of_mem_write (newline_notMem_pemBlocks plain ders) (fun block hblock => ?_) h
  obtain ⟨der, -, rfl⟩ := List.mem_map.mp hblock
  exact Nat.add_le_add_right short 16

end

theorem identity_mtlsConfig (address trustBundlePem : String) (certChainDer : List (List UInt8))
    (privateKeyDer : List UInt8) :
    (mtlsConfig engine address trustBundlePem certChainDer privateKeyDer).identity =
      some (dersToPem engine certChainDer "CERTIFICATE", dersToPem engine [privateKeyDer] "PRIVATE KEY") := by
  rw [← derToPem_eq]
  rfl

theorem newline_notMem_certificate : '\n' ∉ "CERTIFICATE".toList := by decide

theorem newline_notMem_privateKey : '\n' ∉ "PRIVATE KEY".toList := by decide

/-- Whatever the engine of base64, for every chain and key a reader of the identity that `build_mtls_channel` shows finds
    the certificates of the chain, in order, and the key, and nothing else; and no line of it is longer than 64
    characters. -/
theorem mtls_identity_reads_back (engine : Base64.Engine) (address trustBundlePem : String)
    (certChainDer : List (List UInt8)) (privateKeyDer : List UInt8) :
    ∃ certPem keyPem, (mtlsConfig engine address trustBundlePem certChainDer privateKeyDer).identity =
      some (certPem, keyPem) ∧
      Pem.read? engine certPem.toList = some (pemBlocks "CERTIFICATE" certChainDer) ∧
      Pem.read? engine keyPem.toList = some (pemBlocks "PRIVATE KEY" [privateKeyDer]) ∧
      ∀ line ∈ certPem.toList.splitOn '\n' ++ keyPem.toList.splitOn '\n', line.length ≤ 64 := by
  refine ⟨_, _, identity_mtlsConfig .., read?_dersToPem newline_notMem_certificate certChainDer,
    read?_dersToPem newline_notMem_privateKey [privateKeyDer], fun line hline => ?_⟩
  rcases List.mem_append.mp hline with h | h
  · exact line_length newline_notMem_certificate (by decide) h
  · exact line_length newline_notMem_privateKey (by decide) h

/-- With base64 as it is, a chain of two certificates and a key. -/
theorem two_certificates_read_back : ∃ certPem keyPem,
    (mtlsConfig Base64.standard "c1:9443" "ca" [[1, 2, 3, 4], [5]] [6, 7]).identity = some (certPem, keyPem) ∧
      Pem.read? Base64.standard certPem.toList = some [⟨"CERTIFICATE".toList, [1, 2, 3, 4]⟩, ⟨"CERTIFICATE".toList, [5]⟩] ∧
      Pem.read? Base64.standard keyPem.toList = some [⟨"PRIVATE KEY".toList, [6, 7]⟩] := by
  obtain ⟨certPem, keyPem, identity, certificates, key, -⟩ :=
    mtls_identity_reads_back Base64.standard "c1:9443" "ca" [[1, 2, 3, 4], [5]] [6, 7]
  exact ⟨certPem, keyPem, identity, certificates, key⟩

end FleetosAgent.Client
