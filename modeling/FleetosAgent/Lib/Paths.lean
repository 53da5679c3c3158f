import Mathlib.Data.List.DropRight
import Mathlib.Data.List.Infix
import Mathlib.Tactic.Common

/-! # Lexical paths

A path text is split at `/`; empty components and `.` say nothing, `..` takes the last name back. What is left is where
the path leads, as far as the text alone tells: how many levels a relative path first climbs, and the names from there on.
-/

namespace Lib

/-- `PathBuf::join`, on paths that are made from text and can be extended by text: an absolute path replaces, otherwise a
    separator is put in between unless the path is closed, that is, empty or with one at its end. -/
def joinOnto {P : Type} (ofText : String → P) (extend : P → String → P) (closed : P → Bool) (root : P)
    (path : String) : P :=
  if path.startsWith "/" then ofText path
  else if closed root then extend root path
  else extend root ("/" ++ path)

structure LexicalPath where
  absolute : Bool
  ups : Nat := 0
  names : List (List Char) := []
  deriving DecidableEq

namespace LexicalPath

/-- One level up: above the root of an absolute path there is nothing, a relative path climbs. -/
def parent (p : LexicalPath) : LexicalPath :=
  if p.names = [] then if p.absolute then p else ⟨false, p.ups + 1, []⟩
  else ⟨p.absolute, p.ups, p.names.dropLast⟩

def push (p : LexicalPath) (component : List Char) : LexicalPath :=
  if component = ['.', '.'] then p.parent else ⟨p.absolute, p.ups, p.names ++ [component]⟩

/-- The components that say something. -/
def components (path : List Char) : List (List Char) := (path.splitOn '/').filter fun c => c ≠ [] ∧ c ≠ ['.']

def resolve (path : String) : LexicalPath :=
  (components path.toList).foldl push ⟨path.toList.head? == some '/', 0, []⟩

/-- Where `q`, a relative path, leads from `p`. -/
def append (p q : LexicalPath) : LexicalPath :=
  let base := parent^[q.ups] p
  ⟨base.absolute, base.ups, base.names ++ q.names⟩

/-- Where a path leads that is joined onto `p`. -/
def join (p q : LexicalPath) : LexicalPath := if q.absolute then q else p.append q

/-- `p` is `d` or lies below it. -/
def Within (p d : LexicalPath) : Prop := p.absolute = d.absolute ∧ p.ups = d.ups ∧ d.names <+: p.names

def StrictlyBelow (p d : LexicalPath) : Prop := p.Within d ∧ p ≠ d

/-- `p` is an entry of the directory `d` itself. -/
def ChildOf (p d : LexicalPath) : Prop := ∃ name, p = ⟨d.absolute, d.ups, d.names ++ [name]⟩

/-- A relative path that leads to some place below its start. -/
def Descends (p : LexicalPath) : Prop := p.absolute = false ∧ p.ups = 0 ∧ p.names ≠ []

/-- A relative path that, from `d`, climbs out of some names, comes back through the same ones and goes on below `d`.
    Above the root there is nothing to climb out of; above the start of a relative path there is, and no way back. -/
def Returns (d p : LexicalPath) : Prop :=
  (d.absolute = true ∨ p.ups ≤ d.names.length) ∧ d.names.rtake p.ups <+: p.names ∧ d.names.rtake p.ups ≠ p.names

instance (p d : LexicalPath) : Decidable (p.Within d) := inferInstanceAs (Decidable (_ ∧ _ ∧ _))
instance (p d : LexicalPath) : Decidable (p.StrictlyBelow d) := inferInstanceAs (Decidable (_ ∧ _))
instance (p : LexicalPath) : Decidable p.Descends := inferInstanceAs (Decidable (_ ∧ _ ∧ _))
instance (d p : LexicalPath) : Decidable (d.Returns p) := inferInstanceAs (Decidable (_ ∧ _ ∧ _))

/-- A component that is a name: it holds no separator and is none of the special ones. -/
def Plain (name : List Char) : Prop := '/' ∉ name ∧ name ≠ [] ∧ name ≠ ['.'] ∧ name ≠ ['.', '.']

instance (name : List Char) : Decidable (Plain name) := inferInstanceAs (Decidable (_ ∧ _ ∧ _ ∧ _))

/-! ### Components -/

theorem components_append_slash (a b : List Char) : components (a ++ '/' :: b) = components a ++ components b := by
  rw [components, List.splitOn_append_cons_self, List.filter_append]
  rfl

theorem components_nil : components [] = [] := rfl

theorem components_plain {name : List Char} (h : Plain name) : components name = [name] := by
  have whole : (['/'].intercalate [name]).splitOn '/' = [name] :=
    List.splitOn_intercalate '/' (by simpa using h.1) (List.cons_ne_nil _ _)
  rw [List.intercalate_singleton] at whole
  rw [components, whole]
  exact List.filter_eq_self.mpr fun n hn => by simp [List.mem_singleton.mp hn, h.2.1, h.2.2.1]

/-! ### Resolution -/

theorem push_absolute (p : LexicalPath) (c : List Char) : (p.push c).absolute = p.absolute := by
  unfold push parent
  split_ifs <;> simp_all

theorem foldl_push_absolute (cs : List (List Char)) (p : LexicalPath) : (cs.foldl push p).absolute = p.absolute := by
  induction cs generalizing p with
  | nil => rfl
  | cons c cs ih => rw [List.foldl_cons, ih, push_absolute]

theorem startsWith_slash (path : String) : path.startsWith "/" = (path.toList.head? == some '/') := by
  rw [Bool.eq_iff_iff, String.startsWith_string_iff, beq_iff_eq]
  exact List.singleton_prefix_iff_head?_eq_some

theorem resolve_eq (path : String) : resolve path = (components path.toList).foldl push ⟨path.startsWith "/", 0, []⟩ := by
  rw [startsWith_slash, resolve]

@[simp] theorem resolve_absolute (path : String) : (resolve path).absolute = path.startsWith "/" := by
  rw [resolve_eq, foldl_push_absolute]

theorem parent_append {p q : LexicalPath} (hq : q.absolute = false) : (p.append q).parent = p.append q.parent := by
  obtain ⟨_, ups, names⟩ := q
  cases hq
  by_cases hnames : names = []
  · subst hnames
    simp [append, parent, Function.iterate_succ_apply']
  · simp [append, parent, hnames, List.dropLast_append_of_ne_nil]

theorem push_append {p q : LexicalPath} (hq : q.absolute = false) (c : List Char) :
    (p.append q).push c = p.append (q.push c) := by
  unfold push
  split
  · exact parent_append hq
  · simp [append]

/-- Walking some components from `p` is walking them from nowhere, and going there from `p`. -/
theorem foldl_push_append (cs : List (List Char)) {p q : LexicalPath} (hq : q.absolute = false) :
    cs.foldl push (p.append q) = p.append (cs.foldl push q) := by
  induction cs generalizing q with
  | nil => rfl
  | cons c cs ih => rw [List.foldl_cons, push_append hq, ih (by rw [push_absolute, hq]), List.foldl_cons]

theorem append_start (p : LexicalPath) : p.append ⟨false, 0, []⟩ = p := by simp [append]

/-- A text with the components of `a` and then those of `b` leads where `b` leads from `a`. -/
theorem resolve_of_components {path a b : String} (hroot : path.startsWith "/" = a.startsWith "/")
    (hb : b.startsWith "/" = false) (hcomponents : components path.toList = components a.toList ++ components b.toList) :
    resolve path = (resolve a).append (resolve b) := by
  rw [resolve_eq path, hcomponents, List.foldl_append, hroot, ← resolve_eq]
  calc (components b.toList).foldl push (resolve a)
      = (components b.toList).foldl push ((resolve a).append ⟨false, 0, []⟩) := by rw [append_start]
    _ = (resolve a).append ((components b.toList).foldl push ⟨false, 0, []⟩) := foldl_push_append _ rfl
    _ = (resolve a).append (resolve b) := by rw [resolve_eq b, hb]

theorem startsWith_slash_append {a : String} (h : a ≠ "") (b : String) : (a ++ b).startsWith "/" = a.startsWith "/" := by
  have hne : a.toList ≠ [] := fun hnil => h (String.toList_eq_nil_iff.mp hnil)
  obtain ⟨c, rest, ha⟩ := List.exists_cons_of_ne_nil hne
  rw [startsWith_slash, startsWith_slash, String.toList_append, ha]
  rfl

theorem resolve_append_slash {a b : String} (ha : a ≠ "") (hb : b.startsWith "/" = false) :
    resolve (a ++ "/" ++ b) = (resolve a).append (resolve b) := by
  refine resolve_of_components ?_ hb ?_
  · rw [String.append_assoc, startsWith_slash_append ha]
  · have htext : (a ++ "/" ++ b).toList = a.toList ++ '/' :: b.toList := by simp
    rw [htext, components_append_slash]

theorem resolve_append_of_endsWith {a b : String} (ha : a.endsWith "/" = true) (hb : b.startsWith "/" = false) :
    resolve (a ++ b) = (resolve a).append (resolve b) := by
  have hlast : "/".toList <:+ a.toList := by
    have := String.Slice.endsWith_string_iff.mp ha
    rwa [String.copy_toSlice] at this
  obtain ⟨front, hfront⟩ := hlast
  have hsplit : a.toList = front ++ '/' :: [] := by rw [← hfront]; rfl
  refine resolve_of_components ?_ hb ?_
  · exact startsWith_slash_append (fun hnil => by simp [hnil] at hsplit) b
  · have htext : (a ++ b).toList = front ++ '/' :: b.toList := by simp [hsplit]
    rw [htext, hsplit, components_append_slash, components_append_slash, components_nil, List.append_nil]

theorem Plain.relative {name : String} (h : Plain name.toList) : name.startsWith "/" = false := by
  obtain ⟨c, rest, hname⟩ := List.exists_cons_of_ne_nil h.2.1
  have hc : c ≠ '/' := fun hc => h.1 (by rw [hname, hc]; exact List.mem_cons_self)
  rw [startsWith_slash, hname]
  simpa using hc

theorem resolve_plain {name : String} (h : Plain name.toList) : resolve name = ⟨false, 0, [name.toList]⟩ := by
  rw [resolve_eq, h.relative, components_plain h, List.foldl_cons, List.foldl_nil, push, if_neg h.2.2.2]
  rfl

/-! ### Below and within -/

theorem append_of_descends (p : LexicalPath) {q : LexicalPath} (hq : q.Descends) :
    p.append q = ⟨p.absolute, p.ups, p.names ++ q.names⟩ := by
  rw [append, hq.2.1]
  rfl

theorem iterate_parent (p : LexicalPath) (k : Nat) :
    parent^[k] p = ⟨p.absolute, p.ups + (if p.absolute then 0 else k - p.names.length), p.names.rdrop k⟩ := by
  induction k with
  | zero => simp
  | succ k ih =>
    rw [Function.iterate_succ_apply', ih, parent]
    by_cases climbs : k < p.names.length
    · have left : p.names.rdrop k ≠ [] := by
        rw [List.rdrop, ne_eq, List.take_eq_nil_iff]
        rintro (h | h)
        · omega
        · simp [h] at climbs
      have up : (p.names.rdrop k).dropLast = p.names.rdrop (k + 1) := by
        rw [List.rdrop, List.rdrop, List.dropLast_eq_take, List.length_take, List.take_take]
        exact congrArg (List.take · p.names) (by omega)
      rw [if_neg left, up, Nat.sub_eq_zero_of_le climbs.le, Nat.sub_eq_zero_of_le climbs]
    · have top : ∀ j, k ≤ j → p.names.rdrop j = [] := by
        intro j hj
        rw [List.rdrop, List.take_eq_nil_iff]
        exact Or.inl (by omega)
      rw [top k le_rfl, top (k + 1) (Nat.le_succ k), if_pos rfl]
      cases p.absolute with
      | true => rfl
      | false => simp [Nat.succ_sub (Nat.not_lt.mp climbs), Nat.add_assoc]

/-- What a relative path leads to lies strictly below its start exactly if it returns there. -/
theorem append_strictlyBelow_iff (d q : LexicalPath) : (d.append q).StrictlyBelow d ↔ d.Returns q := by
  have parts : d.names.rdrop q.ups ++ d.names.rtake q.ups = d.names := List.take_append_drop ..
  have names : d.names <+: d.names.rdrop q.ups ++ q.names ↔ d.names.rtake q.ups <+: q.names := by
    conv_lhs => lhs; rw [← parts]
    exact List.prefix_append_right_inj _
  have same : d.names.rdrop q.ups ++ q.names = d.names ↔ d.names.rtake q.ups = q.names := by
    conv_lhs => rhs; rw [← parts]
    rw [List.append_cancel_left_eq, eq_comm]
  obtain ⟨absolute, ups, dnames⟩ := d
  rw [StrictlyBelow, Within, Returns, append, iterate_parent]
  dsimp only at names same ⊢
  rw [names]
  cases absolute with
  | true => simp [same]
  | false =>
    by_cases climbs : q.ups ≤ dnames.length
    · simp [climbs, Nat.sub_eq_zero_of_le climbs, same]
    · simp [climbs, Nat.sub_eq_zero_iff_le]

theorem Descends.returns {q : LexicalPath} (hq : q.Descends) (d : LexicalPath) : d.Returns q := by
  rw [Returns, hq.2.1, List.rtake_zero]
  exact ⟨Or.inr (Nat.zero_le _), List.nil_prefix, hq.2.2.symm⟩

theorem append_childOf (p : LexicalPath) {name : String} (h : Plain name.toList) : (p.append (resolve name)).ChildOf p := by
  rw [resolve_plain h]
  exact ⟨name.toList, rfl⟩

end LexicalPath

end Lib
