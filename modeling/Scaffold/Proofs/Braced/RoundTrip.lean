import Scaffold.Expr.Braced.Printer
import Scaffold.Proofs.Braced.Language

/-!
# Writing and reading the braced syntax

`WellFormed` describes the trees of the braced syntax without its texts.
`braced_print_parse_roundtrip`: reading gives such trees only, and each of them is written as a text
that reads as the tree again. A composite operand is written in parentheses and a leaf is an atom,
so every operand is written as an atom (`Writes .atom`), which stands at every level of precedence.
-/

namespace Scaffold.Braced

/-- One of the two quotes is free to enclose the text. -/
def Quotable (text : String) : Prop := '\'' ∉ text.toList ∨ '"' ∉ text.toList

instance (text : String) : Decidable (Quotable text) := inferInstanceAs (Decidable (_ ∨ _))

/-- The trees of the braced syntax: values are compared, `is` and `isNot` join conditions, and the
other operators take any operands. -/
def WellFormed : Expr → Prop
  | .leaf (.literal text) => Quotable text
  | .leaf (.reference name) => Name.IsName name
  | .leaf (.truth _) => True
  | .leaf (.array items) => ∀ text ∈ items, Quotable text
  | .not operand => WellFormed operand
  | .comparison _ left right =>
    (left.isLeaf = true ∧ right.isLeaf = true) ∧ WellFormed left ∧ WellFormed right
  | .condition op left right =>
    op ≠ .xor ∧ (op = .is ∨ op = .isNot → left.isLeaf = false ∧ right.isLeaf = false) ∧
      WellFormed left ∧ WellFormed right
  | .foreign _ => False

/-- Well-formedness is checked node by node. -/
instance WellFormed.decidable : DecidablePred WellFormed
  | .leaf (.literal text) => inferInstanceAs (Decidable (Quotable text))
  | .leaf (.reference name) => inferInstanceAs (Decidable (Name.IsName name))
  | .leaf (.truth _) => inferInstanceAs (Decidable True)
  | .leaf (.array items) => inferInstanceAs (Decidable (∀ text ∈ items, Quotable text))
  | .not operand => WellFormed.decidable operand
  | .comparison _ left right =>
    haveI := WellFormed.decidable left
    haveI := WellFormed.decidable right
    inferInstanceAs (Decidable ((left.isLeaf = true ∧ right.isLeaf = true) ∧
      WellFormed left ∧ WellFormed right))
  | .condition op left right =>
    haveI := WellFormed.decidable left
    haveI := WellFormed.decidable right
    inferInstanceAs (Decidable (op ≠ .xor ∧
      (op = .is ∨ op = .isNot → left.isLeaf = false ∧ right.isLeaf = false) ∧
      WellFormed left ∧ WellFormed right))
  | .foreign _ => inferInstanceAs (Decidable False)

/-! ### Trees that are read -/

section Reading

variable {i : Nat} {op : Infix} {a : Level} {t : Tree} {token : Token} {w cs : List Char}
  {ts : List Located} {items : List String} {e l r : Expr}

/-- What a token brings to a tree. -/
def Token.WellFormed : Token → Prop
  | .reference name => Name.IsName name
  | .string _ text => Quotable text
  | _ => True

theorem Spells.wellFormed (h : Spells token w) : token.WellFormed := by
  cases h with
  | reference h => exact h
  | string hq h =>
    rcases hq with rfl | rfl
    · exact .inl h
    · exact .inr h
  | _ => trivial

theorem Spelled.wellFormed (h : Spelled i ts cs) : ∀ t ∈ ts, t.token.WellFormed := by
  induction h with
  | nil => simp
  | blank _ _ ih => exact ih
  | token hw _ ih => exact List.forall_mem_cons.2 ⟨hw.wellFormed, ih⟩

theorem Items.quotable (h : Items ts items) (hts : ∀ t ∈ ts, t.token.WellFormed) :
    ∀ text ∈ items, Quotable text := by
  induction h with
  | single q text i => simpa [Token.WellFormed] using hts
  | cons q text i j _ ih =>
    simp only [List.forall_mem_cons] at hts ⊢
    exact ⟨hts.1, ih hts.2.2⟩

/-- An operator with well-formed operands that suit it. -/
theorem wellFormed_of_combine (h : Tree.combine op i l r = .ok e) (hl : WellFormed l)
    (hr : WellFormed r) : WellFormed e := by
  cases op with
  | or => cases h; exact ⟨by simp, by simp, hl, hr⟩
  | and => cases h; exact ⟨by simp, by simp, hl, hr⟩
  | equal | notEqual =>
    simp only [Tree.combine, Tree.equality] at h
    split at h <;> cases h
    · next hleft hright => exact ⟨⟨hleft, hright⟩, hl, hr⟩
    · next hleft hright => exact ⟨by simp, fun _ => ⟨hleft, hright⟩, hl, hr⟩
  | contains =>
    simp only [Tree.combine] at h
    split at h
    · cases h
    · next hleft =>
      split at h
      · cases h
      · next hright =>
        cases h
        exact ⟨⟨by simpa using hleft, by simpa using hright⟩, hl, hr⟩

theorem wellFormed_of_toExpr_binary {u : Tree} (h : (Tree.binary op i t u).toExpr = .ok e)
    (ht : ∀ l, t.toExpr = .ok l → WellFormed l) (hu : ∀ r, u.toExpr = .ok r → WellFormed r) :
    WellFormed e := by
  rw [Tree.toExpr, bind_eq_ok] at h
  obtain ⟨l, hl, h⟩ := h
  rw [bind_eq_ok] at h
  obtain ⟨r, hr, h⟩ := h
  exact wellFormed_of_combine h (ht l hl) (hu r hr)

theorem Derives.wellFormed (h : Derives a ts t) (hts : ∀ t ∈ ts, t.token.WellFormed)
    (he : t.toExpr = .ok e) : WellFormed e := by
  induction h generalizing e with
  | ofAnd _ ih | ofEquality _ ih | ofHolding _ ih | ofUnary _ ih | ofAtom _ ih => exact ih hts he
  | or i _ _ ihl ihr | and i _ _ ihl ihr | equal i _ _ ihl ihr | notEqual i _ _ ihl ihr
  | contains i _ _ ihl ihr =>
    exact wellFormed_of_toExpr_binary he (fun l => ihl fun t h => hts t (by simp [h]))
      (fun r => ihr fun t h => hts t (by simp [h]))
  | not i _ ih =>
    rw [Tree.toExpr, bind_eq_ok] at he
    obtain ⟨operand, ho, he⟩ := he
    cases he
    show Braced.WellFormed operand
    exact ih (fun t h => hts t (by simp [h])) ho
  | reference name i => cases he; exact hts ⟨.reference name, i⟩ (by simp)
  | string q text i => cases he; exact hts ⟨.string q text, i⟩ (by simp)
  | true | false => cases he; trivial
  | emptyArray => cases he; simp [Braced.WellFormed]
  | array i j h => cases he; exact h.quotable fun t h => hts t (by simp [h])
  | paren i j _ ih => exact ih (fun t h => hts t (by simp [h])) he

end Reading

/-! ### Texts that are written -/

section Spelling

variable {i : Nat} {t : Token} {ts us : List Located} {w cs ds : List Char}

theorem Spelled.append (h : Spelled i ts cs) (h' : Spelled (i + cs.length) us ds) :
    Spelled i (ts ++ us) (cs ++ ds) := by
  induction h with
  | nil => exact h'
  | @blank i c ts cs hc _ ih =>
    have hlen : i + (c :: cs).length = i + 1 + cs.length := by rw [List.length_cons]; omega
    rw [hlen] at h'
    exact .blank hc (ih h')
  | @token i t ts w cs hw _ ih =>
    rw [List.length_append, ← Nat.add_assoc] at h'
    rw [List.append_assoc]
    exact .token hw (ih h')

theorem Spells.spelled (hw : Spells t w) (i : Nat) : Spelled i [⟨t, i⟩] w := by
  have h := Spelled.token (i := i) hw .nil
  rwa [List.append_nil] at h

end Spelling

/-- Wherever they begin, the characters `cs` are tokens of a level that stand for `e`. -/
def Writes (a : Level) (cs : List Char) (e : Expr) : Prop :=
  ∀ i, ∃ ts t, Spelled i ts cs ∧ Derives a ts t ∧ t.toExpr = .ok e

namespace Writes

variable {a b : Level} {cs ls rs w : List Char} {e l r : Expr}

theorem lift (h : Writes a cs e) (hab : b.rank ≤ a.rank) : Writes b cs e := by
  intro i
  obtain ⟨ts, t, hsp, hd, he⟩ := h i
  exact ⟨ts, t, hsp, hd.lift hab, he⟩

theorem ofAtom (h : Writes .atom cs e) (b : Level) : Writes b cs e :=
  h.lift (by cases b <;> decide)

theorem loosest (h : Writes a cs e) : Writes .or cs e := h.lift (Nat.zero_le _)

theorem paren (h : Writes .or cs e) : Writes .atom ('(' :: (cs ++ [')'])) e := by
  intro i
  obtain ⟨ts, t, hsp, hd, he⟩ := h (i + 1)
  have hclose := Spells.closing.spelled (i + 1 + cs.length)
  exact ⟨_, t, .token .opening (hsp.append hclose), .paren _ _ hd, he⟩

theorem not (h : Writes .atom cs e) : Writes .unary ('!' :: cs) (.not e) := by
  intro i
  obtain ⟨ts, t, hsp, hd, he⟩ := h (i + 1)
  refine ⟨_, .not t, .token .bang hsp, .not _ (.ofAtom hd), ?_⟩
  rw [Tree.toExpr, he]
  rfl

/-- An operator that suits its operands, with a space on either side. -/
theorem binary {op : Infix} {s s' symbol : String} (hop : ∀ i, Tree.combine op i l r = .ok e)
    (hw : Spells op.token symbol.toList) (hl : Writes .atom s.toList l)
    (hr : Writes .atom s'.toList r) :
    Writes op.outer (s ++ " " ++ symbol ++ " " ++ s').toList e := by
  intro i
  have hspace : isBlank ' ' = true := by decide
  have hcs : (s ++ " " ++ symbol ++ " " ++ s').toList =
      s.toList ++ ' ' :: (symbol.toList ++ ' ' :: s'.toList) := by simp
  obtain ⟨ts, t, hsp, hd, ht⟩ := hl.ofAtom op.outer i
  obtain ⟨us, u, hsp', hd', hu⟩ :=
    hr.ofAtom op.inner (i + s.toList.length + 1 + symbol.toList.length + 1)
  rw [hcs]
  have hall := hsp.append (.blank hspace (.token hw (.blank hspace hsp')))
  refine ⟨_, _, hall, .binary op _ hd hd', ?_⟩
  rw [Tree.toExpr, ht, hu]
  exact hop _

end Writes

theorem exists_comparison (op : Comparison) {l r : Expr} (hl : l.isLeaf = true)
    (hr : r.isLeaf = true) :
    ∃ o : Infix, Spells o.token op.symbol.toList ∧
      ∀ i, Tree.combine o i l r = .ok (.comparison op l r) := by
  cases op with
  | equal => exact ⟨.equal, .equal, fun i => by simp [Tree.combine, Tree.equality, hl, hr]⟩
  | notEqual => exact ⟨.notEqual, .notEqual, fun i => by simp [Tree.combine, Tree.equality, hl, hr]⟩
  | contains => exact ⟨.contains, .contains, fun i => by simp [Tree.combine, hl, hr]⟩

theorem exists_connective {op : Connective} {l r : Expr} (hop : op ≠ .xor)
    (h : op = .is ∨ op = .isNot → l.isLeaf = false ∧ r.isLeaf = false) :
    ∃ o : Infix, Spells o.token op.symbol.toList ∧
      ∀ i, Tree.combine o i l r = .ok (.condition op l r) := by
  cases op with
  | and => exact ⟨.and, .and, fun i => rfl⟩
  | or => exact ⟨.or, .or, fun i => rfl⟩
  | xor => exact absurd rfl hop
  | is =>
    obtain ⟨hl, hr⟩ := h (.inl rfl)
    exact ⟨.equal, .equal, fun i => by simp [Tree.combine, Tree.equality, hl, hr]⟩
  | isNot =>
    obtain ⟨hl, hr⟩ := h (.inr rfl)
    exact ⟨.notEqual, .notEqual, fun i => by simp [Tree.combine, Tree.equality, hl, hr]⟩

theorem exists_printString {text : String} (h : Quotable text) :
    ∃ s q, printString text = .ok s ∧ Spells (.string q text) s.toList := by
  by_cases hq : '\'' ∈ text.toList
  · have hq' : '"' ∉ text.toList := h.resolve_left fun hn => hn hq
    refine ⟨"\"" ++ text ++ "\"", '"', by simp [printString, hq, hq'], ?_⟩
    have := Spells.string (.inr rfl) hq'
    simpa using this
  · refine ⟨"'" ++ text ++ "'", '\'', by simp [printString, hq], ?_⟩
    have := Spells.string (.inl rfl) hq
    simpa using this

/-- Quotable texts are written one after another, with commas between them. -/
theorem exists_printItems (x : String) (xs : List String) (h : ∀ text ∈ x :: xs, Quotable text) :
    ∃ s ss, (x :: xs).mapM printString = .ok (s :: ss) ∧
      ∀ i, ∃ ts, Spelled i ts (String.intercalate ", " (s :: ss)).toList ∧ Items ts (x :: xs) := by
  induction xs generalizing x with
  | nil =>
    obtain ⟨s, q, hs, hw⟩ := exists_printString (h x (by simp))
    refine ⟨s, [], by rw [List.mapM_cons, hs]; rfl, fun i => ⟨_, ?_, .single q x i⟩⟩
    rw [String.intercalate_singleton]
    exact hw.spelled i
  | cons y ys ih =>
    obtain ⟨s, q, hs, hw⟩ := exists_printString (h x (by simp))
    obtain ⟨s', ss, hss, hwrite⟩ := ih y fun text ht => h text (by simp [ht])
    refine ⟨s, s' :: ss, by rw [List.mapM_cons, hs, hss]; rfl, fun i => ?_⟩
    obtain ⟨ts, hsp, hitems⟩ := hwrite (i + s.toList.length + 1 + 1)
    have hrest := Spelled.token .comma (.blank (by decide : isBlank ' ' = true) hsp)
    have hcs : (String.intercalate ", " (s :: s' :: ss)).toList =
        s.toList ++ ([','] ++ ' ' :: (String.intercalate ", " (s' :: ss)).toList) := by
      simp [String.intercalate_cons_cons]
    rw [hcs]
    exact ⟨_, (hw.spelled i).append hrest, .cons q x i _ hitems⟩

/-- The level of a tree's text without parentheses around it. -/
def level (e : Expr) : Level := if e.isLeaf then .atom else .or

theorem Writes.enclose {e : Expr} {text : String} (h : Writes (level e) text.toList e) :
    Writes .atom (enclose e text).toList e := by
  unfold level at h
  unfold Braced.enclose
  split at h
  · next hleaf => rwa [if_pos hleaf]
  · next hleaf =>
    rw [if_neg hleaf]
    simpa using h.paren

theorem exists_printLeaf {l : Leaf} (h : WellFormed (.leaf l)) :
    ∃ text, printLeaf l = .ok text ∧ Writes .atom text.toList (.leaf l) := by
  cases l with
  | literal text =>
    obtain ⟨s, q, hs, hw⟩ := exists_printString h
    exact ⟨s, hs, fun i => ⟨_, _, hw.spelled i, .string q text i, rfl⟩⟩
  | reference name =>
    refine ⟨"$\x7b" ++ name ++ "\x7d", if_pos (Name.isWritable_of_isName h), fun i => ?_⟩
    have hsp := (Spells.reference h).spelled i
    exact ⟨_, _, by simpa using hsp, .reference name i, rfl⟩
  | truth value =>
    cases value with
    | true => exact ⟨"true", rfl, fun i => ⟨_, _, Spells.true.spelled i, .true i, rfl⟩⟩
    | false => exact ⟨"false", rfl, fun i => ⟨_, _, Spells.false.spelled i, .false i, rfl⟩⟩
  | array items =>
    cases items with
    | nil =>
      refine ⟨"[]", rfl, fun i => ⟨_, _, ?_, .emptyArray i (i + 1), rfl⟩⟩
      exact .token .openBracket (Spells.closeBracket.spelled _)
    | cons x xs =>
      obtain ⟨s, ss, hss, hwrite⟩ := exists_printItems x xs h
      refine ⟨"[" ++ String.intercalate ", " (s :: ss) ++ "]", by rw [printLeaf, hss]; rfl,
        fun i => ?_⟩
      obtain ⟨ts, hsp, hitems⟩ := hwrite (i + 1)
      have hclose := hsp.append (Spells.closeBracket.spelled _)
      rw [String.toList_append, String.toList_append, List.append_assoc]
      exact ⟨_, _, .token .openBracket hclose, .array i _ hitems, rfl⟩

/-- A well-formed tree is written as tokens that stand for it. -/
theorem exists_print {e : Expr} (h : WellFormed e) :
    ∃ text, print e = .ok text ∧ Writes (level e) text.toList e := by
  induction e with
  | foreign kind => exact h.elim
  | leaf l => exact exists_printLeaf h
  | not operand ih =>
    obtain ⟨s, hs, hw⟩ := ih h
    -- parentheses are written exactly where the operand is looser than an atom
    refine ⟨"!" ++ enclose operand s, by rw [print, hs]; rfl, ?_⟩
    rw [String.toList_append]
    exact hw.enclose.not.loosest
  | comparison op left right ihl ihr =>
    obtain ⟨⟨hleft, hright⟩, hl, hr⟩ := h
    obtain ⟨s, hs, hw⟩ := ihl hl
    obtain ⟨s', hs', hw'⟩ := ihr hr
    obtain ⟨o, ho, hop⟩ := exists_comparison op hleft hright
    refine ⟨enclose left s ++ " " ++ op.symbol ++ " " ++ enclose right s', ?_, ?_⟩
    · rw [print, hs, hs']
      rfl
    · exact (Writes.binary hop ho hw.enclose hw'.enclose).loosest
  | condition op left right ihl ihr =>
    obtain ⟨hxor, hshape, hl, hr⟩ := h
    obtain ⟨s, hs, hw⟩ := ihl hl
    obtain ⟨s', hs', hw'⟩ := ihr hr
    obtain ⟨o, ho, hop⟩ := exists_connective hxor hshape
    refine ⟨enclose left s ++ " " ++ op.symbol ++ " " ++ enclose right s', ?_, ?_⟩
    · rw [print, if_neg hxor, hs, hs']
      rfl
    · exact (Writes.binary hop ho hw.enclose hw'.enclose).loosest

/-- Reading gives well-formed trees only, and a well-formed tree is written as a text that reads as
the tree. -/
theorem braced_print_parse_roundtrip :
    (∀ text e, parse text = .ok e → WellFormed e) ∧
      ∀ e, WellFormed e → ∃ text, print e = .ok text ∧ parse text = .ok e := by
  constructor
  · intro text e h
    obtain ⟨t, ⟨ts, hsp, hd⟩, he⟩ := parse_eq_ok_iff.1 h
    exact hd.wellFormed hsp.wellFormed he
  · intro e h
    obtain ⟨text, hprint, hw⟩ := exists_print h
    obtain ⟨ts, t, hsp, hd, he⟩ := hw.loosest 0
    exact ⟨text, hprint, parse_eq_ok_iff.2 ⟨t, ⟨ts, hsp, hd⟩, he⟩⟩

/-- A tree with an apostrophe, a quote and a comma in its array, an operator in a string, and an
equality of conditions. -/
theorem roundtrip_of_quotes_and_operators :
    ∃ text e, e = Expr.condition .or
        (.not (.comparison .contains (.leaf (.array ["it's", "a\"b", ","]))
          (.leaf (.reference "a.b"))))
        (.condition .is (.not (.leaf (.truth true)))
          (.condition .and (.leaf (.truth false)) (.leaf (.literal "!=")))) ∧
      WellFormed e ∧ print e = .ok text ∧ parse text = .ok e := by
  obtain ⟨text, hprint, hparse⟩ := braced_print_parse_roundtrip.2
    (.condition .or
      (.not (.comparison .contains (.leaf (.array ["it's", "a\"b", ","]))
        (.leaf (.reference "a.b"))))
      (.condition .is (.not (.leaf (.truth true)))
        (.condition .and (.leaf (.truth false)) (.leaf (.literal "!=")))))
    (by decide)
  exact ⟨text, _, rfl, braced_print_parse_roundtrip.1 text _ hparse, hprint, hparse⟩

end Scaffold.Braced
