import FleetosAgent.Lib.Paths
import FleetosAgent.Lib.Run
import FleetosAgent.Secret.Deliver

/-! # One secret file per workload

The file of a workload is named after its SPIFFE ID, with a `_` for every `/` and `:`. A segment of an ID may hold a `_`
of its own, so that the name tells the words of an ID and not where its segments end. -/

namespace FleetosAgent.Secret
open Lib Identity

/-! ### SPIFFE IDs -/

/-- The alphabet of a SPIFFE path. -/
def isPathChar (c : Char) : Bool := c.isAlphanum || c == '.' || c == '-' || c == '_'

structure Segment where
  word : List Char
  nonempty : word ≠ []
  alphabet : word.all isPathChar = true
  deriving DecidableEq

structure WorkloadId where
  trustDomain : Segment
  tenant : Segment
  kind : Segment
  name : Segment
  deriving DecidableEq

namespace WorkloadId

/-- `spiffe://<td>/ns/<tenant>/<kind>/<name>`. -/
def text (id : WorkloadId) : String :=
  String.ofList ("spiffe://".toList ++ id.trustDomain.word ++ "/ns/".toList ++ id.tenant.word ++
    "/".toList ++ id.kind.word ++ "/".toList ++ id.name.word)

def segments (id : WorkloadId) : List (List Char) :=
  [id.trustDomain.word, "ns".toList, id.tenant.word, id.kind.word, id.name.word]

/-- The words between the `/` and the `_` of an ID. -/
def words (id : WorkloadId) : List (List Char) := id.segments.flatMap (·.splitOn '_')

end WorkloadId

theorem ne_separator_of_isPathChar {c : Char} (h : isPathChar c = true) : c ≠ '/' ∧ c ≠ ':' := by
  constructor <;> rintro rfl <;> exact absurd h (by decide)

namespace WorkloadId

theorem toList_text (id : WorkloadId) : id.text.toList = ['/'].intercalate ("spiffe:".toList :: [] :: id.segments) := by
  refine String.toList_ofList.trans ?_
  simp only [segments, List.append_assoc, List.intercalate_cons_cons, List.intercalate_singleton]
  rfl

theorem isPathChar_of_mem_segments {id : WorkloadId} {word : List Char} (h : word ∈ id.segments) :
    word.all isPathChar = true := by
  simp only [segments, List.mem_cons, List.not_mem_nil, or_false] at h
  rcases h with rfl | rfl | rfl | rfl | rfl
  · exact id.trustDomain.alphabet
  · rfl
  · exact id.tenant.alphabet
  · exact id.kind.alphabet
  · exact id.name.alphabet

theorem ne_separator {id : WorkloadId} {word : List Char} (h : word ∈ id.segments) {c : Char} (hc : c ∈ word) :
    c ≠ '/' ∧ c ≠ ':' :=
  ne_separator_of_isPathChar (List.all_eq_true.mp (isPathChar_of_mem_segments h) c hc)

theorem splitOn_text (id : WorkloadId) : id.text.toList.splitOn '/' = "spiffe:".toList :: [] :: id.segments := by
  rw [toList_text]
  refine List.splitOn_intercalate '/' ?_ (by simp)
  intro part hpart
  rcases List.mem_cons.mp hpart with rfl | hpart
  · decide
  · rcases List.mem_cons.mp hpart with rfl | hpart
    · exact List.not_mem_nil
    · exact fun hslash => (ne_separator hpart hslash).1 rfl

theorem ext_segments {a b : WorkloadId} (h : a.segments = b.segments) : a = b := by
  obtain ⟨⟨_, _, _⟩, ⟨_, _, _⟩, ⟨_, _, _⟩, ⟨_, _, _⟩⟩ := a
  obtain ⟨⟨_, _, _⟩, ⟨_, _, _⟩, ⟨_, _, _⟩, ⟨_, _, _⟩⟩ := b
  simp only [segments, List.cons.injEq, and_true, true_and] at h
  obtain ⟨rfl, rfl, rfl, rfl⟩ := h
  rfl

theorem text_injective : Function.Injective text := by
  intro a b h
  have parts := splitOn_text b
  rw [← h, splitOn_text a] at parts
  exact ext_segments (List.cons.inj (List.cons.inj parts).2).2

end WorkloadId

/-! ### File names -/

/-- Cutting joined parts at the separator cuts each part. -/
theorem splitOn_intercalate_eq_flatMap (x : Char) {parts : List (List Char)} (h : parts ≠ []) :
    ([x].intercalate parts).splitOn x = parts.flatMap (·.splitOn x) := by
  induction parts with
  | nil => exact absurd rfl h
  | cons part parts ih =>
    cases parts with
    | nil => simp
    | cons next parts =>
      rw [List.intercalate_cons_cons, List.append_assoc, List.singleton_append, List.splitOn_append_cons_self,
        ih (by simp)]
      exact List.flatMap_cons.symm

theorem map_intercalate (f : Char → Char) (x : Char) (parts : List (List Char)) :
    ([x].intercalate parts).map f = [f x].intercalate (parts.map (·.map f)) := by
  induction parts with
  | nil => rfl
  | cons part parts ih =>
    cases parts with
    | nil => simp
    | cons next parts =>
      rw [List.intercalate_cons_cons, List.map_append, List.map_append, ih]
      exact List.intercalate_cons_cons.symm

theorem toList_safeName (id : WorkloadId) :
    (safeName id.text).toList = ['_'].intercalate ("spiffe_".toList :: [] :: id.segments) := by
  have kept : ∀ word ∈ id.segments, word.map (fun ch => if ch = '/' ∨ ch = ':' then '_' else ch) = word := by
    intro word hword
    refine (List.map_congr_left fun ch hch => ?_).trans (List.map_id' word)
    exact if_neg (not_or.mpr (WorkloadId.ne_separator hword hch))
  rw [safeName, String.toList_map, id.toList_text, map_intercalate, List.map_cons, List.map_cons,
    List.map_congr_left kept, List.map_id']
  rfl

/-- The name of a file has the words of the ID. -/
theorem splitOn_safeName (id : WorkloadId) :
    (safeName id.text).toList.splitOn '_' = "spiffe".toList :: [] :: [] :: id.words := by
  rw [toList_safeName, splitOn_intercalate_eq_flatMap '_' (by simp)]
  rfl

theorem safeName_eq_iff {a b : WorkloadId} : safeName a.text = safeName b.text ↔ a.words = b.words := by
  constructor
  · intro h
    have words := splitOn_safeName b
    rw [← h, splitOn_safeName a] at words
    exact (List.cons.inj (List.cons.inj (List.cons.inj words).2).2).2
  · intro h
    have joined : ∀ id : WorkloadId, (safeName id.text).toList = ['_'].intercalate
        ("spiffe".toList :: [] :: [] :: id.words) :=
      fun id => by rw [← splitOn_safeName, List.intercalate_splitOn]
    rw [← String.toList_inj, joined a, h, joined b]

theorem secretPath_eq_iff {a b : WorkloadId} : secretPath a.text = secretPath b.text ↔ a.words = b.words := by
  unfold secretPath
  exact (String.append_right_inj "/run/fleetos/secrets/").trans safeName_eq_iff

theorem plain_safeName (id : WorkloadId) : LexicalPath.Plain (safeName id.text).toList := by
  have first : (safeName id.text).toList.head? = some 's' := by
    rw [toList_safeName]
    rfl
  refine ⟨?_, ?_, ?_, ?_⟩
  · rw [safeName, String.toList_map, List.mem_map]
    rintro ⟨ch, -, heq⟩
    split at heq
    · exact absurd heq (by decide)
    · next other => exact other (.inl heq)
  all_goals
    intro heq
    rw [heq] at first
    exact absurd first (by decide)

theorem secretPath_childOf (id : WorkloadId) :
    (LexicalPath.resolve (secretPath id.text)).ChildOf (LexicalPath.resolve "/run/fleetos/secrets") := by
  have plain := plain_safeName id
  have directory : "/run/fleetos/secrets/" = "/run/fleetos/secrets" ++ "/" := by decide
  unfold secretPath
  rw [directory, LexicalPath.resolve_append_slash (by decide) plain.relative]
  exact LexicalPath.append_childOf _ plain

/-! ### Rotations -/

variable {api : SpiffeApi} {crypto : SealingApi}

/-- A rotation writes the file of its ID, if the parser accepts it, and no other. -/
theorem files_rotationStep (w : SecretsWorld) (call : RotationCall) :
    (rotationStep api crypto w call).files = w.files ∨ (∃ id, api.parse call.spiffeId = .ok id) ∧
      ∃ content, (rotationStep api crypto w call).files = w.files.insert (secretPath call.spiffeId) content := by
  unfold rotationStep handleRotation
  cases call.env.fetch ⟨call.spiffeId, call.svidVersion⟩ with
  | error e => exact .inl rfl
  | ok proto =>
    dsimp only
    rcases unsealWithNodeKey crypto call.env w.sequences proto with ⟨e | plaintext, sequences⟩
    · exact .inl rfl
    · unfold deliver
      cases hparse : api.parse call.spiffeId with
      | error e => exact .inl rfl
      | ok id =>
        rcases call.env.createDir with _ | e
        · rcases call.env.write with _ | ⟨e, left⟩
          · exact .inr ⟨⟨id, rfl⟩, plaintext, rfl⟩
          · exact .inr ⟨⟨id, rfl⟩, left, rfl⟩
        · exact .inl rfl

/-- `str::parse::<SpiffeId>` where it accepts the texts of IDs. -/
structure IdParser where
  api : SpiffeApi
  accepts : ∀ text, (∃ spiffe, api.parse text = .ok spiffe) ↔ ∃ id : WorkloadId, text = id.text

/-- Each of the IDs has a file of its own in the directory, and no rotation of another ID touches it. -/
structure OneFilePerWorkload (parser : IdParser) (crypto : SealingApi) (ids : Set WorkloadId) : Prop where
  distinct : ∀ a ∈ ids, ∀ b ∈ ids, a.text ≠ b.text → secretPath a.text ≠ secretPath b.text
  child : ∀ a ∈ ids, (LexicalPath.resolve (secretPath a.text)).ChildOf (LexicalPath.resolve "/run/fleetos/secrets")
  kept : ∀ (w : SecretsWorld) (calls : List RotationCall),
    (∀ call ∈ calls, ∀ b : WorkloadId, call.spiffeId = b.text → b ∈ ids) →
    Along (rotationStep parser.api crypto) (fun w call => ∀ a ∈ ids, a.text ≠ call.spiffeId →
      (rotationStep parser.api crypto w call).files.get (secretPath a.text) = w.files.get (secretPath a.text)) w calls

/-- Workloads have a file each exactly if their IDs have different words. -/
theorem one_file_per_workload_iff (parser : IdParser) (crypto : SealingApi) (ids : Set WorkloadId) :
    OneFilePerWorkload parser crypto ids ↔ ∀ a ∈ ids, ∀ b ∈ ids, a ≠ b → a.words ≠ b.words := by
  constructor
  · intro h a ha b hb hne hwords
    exact h.distinct a ha b hb (fun htext => hne (WorkloadId.text_injective htext)) (secretPath_eq_iff.mpr hwords)
  · intro h
    have distinct : ∀ a ∈ ids, ∀ b ∈ ids, a.text ≠ b.text → secretPath a.text ≠ secretPath b.text := by
      intro a ha b hb hne hpath
      exact h a ha b hb (fun heq => hne (congrArg _ heq)) (secretPath_eq_iff.mp hpath)
    refine ⟨distinct, fun a _ => secretPath_childOf a, ?_⟩
    intro w calls used pre call post hcalls a ha hne
    rcases files_rotationStep (pre.foldl (rotationStep parser.api crypto) w) call with same | ⟨accepted, content, written⟩
    · rw [same]
    · obtain ⟨b, hb⟩ := (parser.accepts _).mp accepted
      have mem : b ∈ ids := used call (hcalls ▸ List.mem_append_right _ (List.mem_cons_self ..)) b hb
      rw [hb] at hne
      rw [written, hb, FinMap.get_insert_ne _ _ (distinct a ha b mem hne)]

/-- Where no segment holds a `_`, the words are the segments. -/
theorem words_ne_of_no_underscore {a b : WorkloadId} (ha : ∀ word ∈ a.segments, '_' ∉ word)
    (hb : ∀ word ∈ b.segments, '_' ∉ word) (hne : a ≠ b) : a.words ≠ b.words := by
  have words : ∀ id : WorkloadId, (∀ word ∈ id.segments, '_' ∉ word) → id.words = id.segments := by
    intro id h
    rw [WorkloadId.words, List.flatMap_congr fun word hword => List.splitOn_eq_singleton (h word hword),
      List.flatMap_singleton']
  rw [words a ha, words b hb]
  exact fun heq => hne (WorkloadId.ext_segments heq)

/-! ### Two tenants with one file -/

def Segment.ofWord? (word : List Char) : Option Segment :=
  if h : word ≠ [] ∧ word.all isPathChar = true then some ⟨word, h.1, h.2⟩ else none

/-- Reads an ID. -/
def WorkloadId.ofText? (text : String) : Option WorkloadId :=
  match text.toList.splitOn '/' with
  | [scheme, [], trustDomain, ns, tenant, kind, name] =>
    if scheme = "spiffe:".toList ∧ ns = "ns".toList then do
      return ⟨← Segment.ofWord? trustDomain, ← Segment.ofWord? tenant, ← Segment.ofWord? kind, ← Segment.ofWord? name⟩
    else none
  | _ => none

theorem Segment.ofWord?_eq_some {word : List Char} {segment : Segment} :
    Segment.ofWord? word = some segment ↔ word = segment.word := by
  unfold Segment.ofWord?
  constructor
  · intro h
    split at h
    · rw [← Option.some.inj h]
    · cases h
  · rintro rfl
    exact dif_pos ⟨segment.nonempty, segment.alphabet⟩

theorem WorkloadId.ofText?_eq_some {text : String} {id : WorkloadId} : ofText? text = some id ↔ text = id.text := by
  constructor
  · intro h
    unfold ofText? at h
    split at h
    · next scheme trustDomain ns tenant kind name parts =>
      split at h
      · next heads =>
        simp only [bind, pure, Option.bind_eq_some_iff, Segment.ofWord?_eq_some, Option.some.injEq] at h
        obtain ⟨_, rfl, _, rfl, _, rfl, _, rfl, rfl⟩ := h
        have joined : ['/'].intercalate (text.toList.splitOn '/') = text.toList := List.intercalate_splitOn '/'
        rw [← String.toList_inj, ← joined, parts, heads.1, heads.2, toList_text]
        rfl
      · cases h
    · cases h
  · rintro rfl
    unfold ofText?
    rw [splitOn_text]
    simp [segments, bind, Segment.ofWord?_eq_some.mpr rfl]

def spiffeParser : IdParser where
  api := { textApi with
    parse := fun text => if (WorkloadId.ofText? text).isSome then .ok text else .error s!"invalid SPIFFE ID: {text}" }
  accepts text := by
    cases h : WorkloadId.ofText? text with
    | none =>
      constructor
      · rintro ⟨_, hparse⟩
        simp [h] at hparse
      · rintro ⟨id, htext⟩
        rw [WorkloadId.ofText?_eq_some.mpr htext] at h
        cases h
    | some id => exact ⟨fun _ => ⟨id, WorkloadId.ofText?_eq_some.mp h⟩, fun _ => ⟨text, if_pos (by rw [h]; rfl)⟩⟩

theorem parse_spiffeParser {text : String} {id : WorkloadId} (h : WorkloadId.ofText? text = some id) :
    spiffeParser.api.parse text = .ok text := if_pos (by rw [h]; rfl)

/-- Every secret opens. -/
def openApi : SealingApi where
  unsealSecret _ core := .ok core.ciphertext

def dbOfTeam : WorkloadId where
  trustDomain := ⟨"fleet".toList, by decide, by decide⟩
  tenant := ⟨"team".toList, by decide, by decide⟩
  kind := ⟨"sa".toList, by decide, by decide⟩
  name := ⟨"web_sa_db".toList, by decide, by decide⟩

def dbOfOtherTeam : WorkloadId where
  trustDomain := ⟨"fleet".toList, by decide, by decide⟩
  tenant := ⟨"team_sa_web".toList, by decide, by decide⟩
  kind := ⟨"sa".toList, by decide, by decide⟩
  name := ⟨"db".toList, by decide, by decide⟩

def sealedFor (id : WorkloadId) (secret : List UInt8) : ProtoSealedSecret := ⟨id.text, 1, 1, .replicate 32 7, secret⟩

def rotate (id : WorkloadId) (secret : List UInt8) : RotationCall where
  spiffeId := id.text
  svidVersion := 1
  env := {
    fetch := fun _ => .ok (sealedFor id secret)
    sealingSecret := .ok (some (.replicate 32 9)) }

theorem rotationStep_rotate {w : SecretsWorld} {id : WorkloadId} {secret : List UInt8} {sequences : SequenceStore}
    (h : deliverSecret openApi {} w.sequences (sealedFor id secret) (.replicate 32 9) = (.ok secret, sequences)) :
    rotationStep spiffeParser.api openApi w (rotate id secret) =
      ⟨sequences, w.files.insert (secretPath id.text) secret, w.secrets.insert id.text secret⟩ := by
  have unsealed : unsealWithNodeKey openApi (rotate id secret).env w.sequences (sealedFor id secret) =
      (.ok secret, sequences) := h
  have delivered : deliver spiffeParser.api (rotate id secret).env w.files id.text secret =
      (.ok (), w.files.insert (secretPath id.text) secret) := by
    unfold deliver
    rw [parse_spiffeParser (WorkloadId.ofText?_eq_some.mpr rfl)]
    rfl
  unfold rotationStep handleRotation
  simp only [rotate] at unsealed delivered ⊢
  rw [unsealed]
  dsimp only
  rw [delivered]

/-- Two workloads of two tenants have one file: the secret of the one is overwritten with that of the other. -/
theorem tenants_share_secret_file :
    dbOfTeam.text = "spiffe://fleet/ns/team/sa/web_sa_db" ∧ dbOfOtherTeam.text = "spiffe://fleet/ns/team_sa_web/sa/db" ∧
    secretPath dbOfTeam.text = "/run/fleetos/secrets/spiffe___fleet_ns_team_sa_web_sa_db" ∧
    ([rotate dbOfTeam [1]].foldl (rotationStep spiffeParser.api openApi) {}).files.get (secretPath dbOfTeam.text) =
      some [1] ∧
    ([rotate dbOfTeam [1], rotate dbOfOtherTeam [2]].foldl (rotationStep spiffeParser.api openApi) {}).files.get
      (secretPath dbOfTeam.text) = some [2] ∧
    ¬OneFilePerWorkload spiffeParser openApi Set.univ := by
  have shared : secretPath dbOfTeam.text = secretPath dbOfOtherTeam.text := secretPath_eq_iff.mpr (by decide)
  have path : secretPath dbOfTeam.text = "/run/fleetos/secrets/spiffe___fleet_ns_team_sa_web_sa_db" := by
    have name : safeName dbOfTeam.text = "spiffe___fleet_ns_team_sa_web_sa_db" := String.toList_inj.mp (toList_safeName _)
    unfold secretPath
    rw [name]
    decide
  have first := @rotationStep_rotate {} dbOfTeam [1] _ rfl
  refine ⟨by decide, by decide, path, ?_, ?_, fun h => ?_⟩
  · rw [List.foldl_cons, first]
    exact FinMap.get_insert_self ..
  · rw [List.foldl_cons, first, List.foldl_cons, rotationStep_rotate rfl, shared]
    exact FinMap.get_insert_self ..
  · exact h.distinct _ trivial _ trivial (by decide) shared

end FleetosAgent.Secret
