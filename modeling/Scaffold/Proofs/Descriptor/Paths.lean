import Scaffold.Proofs.Descriptor.Restoration

/-!
# Paths as they are written

Reports name a node by the text of its address. `Address.ofText?` reads such a text back: the pieces
between slashes are fields, each with an index in brackets if it holds a list. No name of a field
and no index holds a slash or a bracket, so the decoder undoes `Address.text` (`ofText?_text`), and
different addresses have different texts (`text_inj`).
-/

namespace Scaffold.Descriptor

theorem Field.not_mem_spelling (f : Field) :
    '/' ∉ f.spelling.toList ∧ '[' ∉ f.spelling.toList := by
  cases f <;> decide

theorem not_mem_decimal {c : Char} (hc : c.isDigit = false) (i : Nat) : c ∉ Nat.toDigits 10 i := by
  intro h
  have hd := Nat.isDigit_of_mem_toDigits (by decide) (by decide) h
  rw [hc] at hd
  cases hd

namespace Address

/-! ### The decoder -/

/-- The step that a piece of a path names. -/
def Step.ofPiece? (piece : List Char) : Option Step :=
  match piece.splitOn '[' with
  | [name] => (Field.ofSpelling? (.ofList name)).map fun f => ⟨f, none⟩
  | [name, index] =>
    match index.splitOn ']' with
    | [digits, []] =>
      if digits.all Char.isDigit then
        (Field.ofSpelling? (.ofList name)).map fun f => ⟨f, some (Nat.ofDigitChars 10 digits 0)⟩
      else none
    | _ => none
  | _ => none

/-- The address that a path names. -/
def ofText? (path : String) : Option Address :=
  match path.toList.splitOn '/' with
  | [[], []] => some []
  | [] :: piece :: pieces => (piece :: pieces).mapM Step.ofPiece?
  | _ => none

/-! ### It undoes the text -/

/-- What a step adds to a path after the slash. -/
def Step.piece (s : Step) : List Char :=
  match s.index with
  | none => s.field.spelling.toList
  | some i => s.field.spelling.toList ++ '[' :: (Nat.toDigits 10 i ++ [']'])

theorem Step.toList_text (s : Step) : s.text.toList = '/' :: s.piece := by
  obtain ⟨f, index⟩ := s
  cases index with
  | none => simp [text, piece]
  | some i => simp [text, piece, toString]

theorem Step.slash_not_mem_piece (s : Step) : '/' ∉ s.piece := by
  obtain ⟨f, index⟩ := s
  cases index with
  | none => exact f.not_mem_spelling.1
  | some i =>
    have hdigits : '/' ∉ Nat.toDigits 10 i := not_mem_decimal (by decide) i
    simp [piece, f.not_mem_spelling.1, hdigits]

theorem Step.ofPiece?_piece (s : Step) : ofPiece? s.piece = some s := by
  obtain ⟨f, index⟩ := s
  have hname := f.not_mem_spelling.2
  cases index with
  | none =>
    have hpiece : (piece ⟨f, none⟩).splitOn '[' = [f.spelling.toList] :=
      List.splitOn_eq_singleton hname
    simp only [ofPiece?, hpiece, String.ofList_toList, Field.ofSpelling?_spelling, Option.map_some]
  | some i =>
    have hpiece : (piece ⟨f, some i⟩).splitOn '[' =
        [f.spelling.toList, Nat.toDigits 10 i ++ [']']] := by
      have hindex : '[' ∉ Nat.toDigits 10 i ++ [']'] := by
        simpa using not_mem_decimal (by decide) i
      rw [piece, List.splitOn_append_cons_self_of_not_mem hname, List.splitOn_eq_singleton hindex]
    have hindex : (Nat.toDigits 10 i ++ [']']).splitOn ']' = [Nat.toDigits 10 i, []] := by
      rw [List.splitOn_append_cons_self_of_not_mem (not_mem_decimal (by decide) i), List.splitOn_nil]
    have hdigits : (Nat.toDigits 10 i).all Char.isDigit = true :=
      List.all_eq_true.2 fun c hc => Nat.isDigit_of_mem_toDigits (by decide) (by decide) hc
    simp only [ofPiece?, hpiece, hindex, hdigits, if_true, String.ofList_toList,
      Field.ofSpelling?_spelling, Option.map_some, Nat.ofDigitChars_ten_toDigits]

theorem splitOn_pieces (steps : List Step) {before : List Char} (h : '/' ∉ before) :
    (before ++ steps.flatMap fun s => '/' :: s.piece).splitOn '/' =
      before :: steps.map Step.piece := by
  induction steps generalizing before with
  | nil => simpa using List.splitOn_eq_singleton h
  | cons s steps ih =>
    rw [List.flatMap_cons, List.cons_append, List.splitOn_append_cons_self_of_not_mem h,
      ih s.slash_not_mem_piece, List.map_cons]

/-- The decoder gives back the address whose text it reads. -/
theorem ofText?_text (p : Address) : ofText? p.text = some p := by
  cases p with
  | nil => decide
  | cons s steps =>
    have hchars : (text (s :: steps)).toList = (s :: steps).flatMap fun t => '/' :: t.piece := by
      rw [text, String.toList_join, List.flatMap_map]
      · exact List.flatMap_congr fun t _ => t.toList_text
      · exact List.cons_ne_nil s steps
    have hsplit : (text (s :: steps)).toList.splitOn '/' = [] :: s.piece :: steps.map Step.piece := by
      rw [hchars]
      exact splitOn_pieces (s :: steps) List.not_mem_nil
    have hmapM : (s.piece :: steps.map Step.piece).mapM Step.ofPiece? = some (s :: steps) := by
      rw [mapM_eq_some_iff, ← List.map_cons, List.forall₂_map_left_iff]
      exact List.forall₂_same.2 fun t _ => t.ofPiece?_piece
    -- the empty piece of the root's path names no field
    have hne : s.piece ≠ [] := fun h => by
      have hs := s.ofPiece?_piece
      rw [h] at hs
      cases hs
    obtain ⟨c, cs, hpiece⟩ := List.exists_cons_of_ne_nil hne
    rw [hpiece] at hsplit hmapM
    simpa only [ofText?, hsplit] using hmapM

theorem text_inj {p q : Address} : p.text = q.text ↔ p = q := by
  constructor
  · intro h
    have hp := ofText?_text p
    rw [h, ofText?_text q] at hp
    exact (Option.some.inj hp).symm
  · rintro rfl
    rfl

end Address

/-- The node that a path leads to from the root of a tree. -/
def Node.follow (root : Node) (path : String) : Option Node :=
  (Address.ofText? path).bind root.at?

theorem Node.follow_text (root : Node) (p : Address) : root.follow p.text = root.at? p := by
  rw [follow, Address.ofText?_text, Option.bind_some]

end Scaffold.Descriptor
