import Mathlib.Data.List.Dedup
import Mathlib.Data.List.Perm.Subperm
import Scaffold.Proofs.Eval.Bindings

/-!
# Chains of aliases

`Bindings.chain` lists the names that one gets to from a variable by following aliases. A resolution
walks along that chain: it ends at the first name that is no alias, or at the first name that it comes
to a second time (`Bindings.Ends`). `Bindings.resolveWithin` keeps the names that it has looked up and
is given a number of lookups to do; one lookup for each bound name and one more are enough, since all
names it goes on from are bound and different.
-/

namespace Scaffold

namespace Datum

theorem exists_array_of_readTexts {u : Unsupported} {items : List Plain} {r : Reading}
    (h : readTexts u items = .ok r) : ∃ ts, r = .value (.array ts) := by
  unfold readTexts at h
  split at h
  · next ts _ => cases h; exact ⟨ts, rfl⟩
  · cases h

/-- Null alone is missing, and a name alone is an alias. -/
theorem read_cases {d : Datum} {r : Reading} (h : d.read = .ok r) :
    (r = .missing ∧ d = .plain .null) ∨ (∃ v, r = .value v) ∨
      ∃ other, r = .sameAs other ∧ d = .sameAs other := by
  cases d with
  | value v => cases h; exact .inr (.inl ⟨v, rfl⟩)
  | sameAs other => cases h; exact .inr (.inr ⟨other, rfl, rfl⟩)
  | other typeName shown => cases h
  | tuple items =>
    obtain ⟨ts, rfl⟩ := exists_array_of_readTexts h
    exact .inr (.inl ⟨_, rfl⟩)
  | plain p =>
    cases p with
    | null => cases h; exact .inl ⟨rfl, rfl⟩
    | bool b => cases h; exact .inr (.inl ⟨_, rfl⟩)
    | text s => cases h; exact .inr (.inl ⟨_, rfl⟩)
    | number n => cases n <;> cases h
    | object entries => cases h
    | list items =>
      obtain ⟨ts, rfl⟩ := exists_array_of_readTexts h
      exact .inr (.inl ⟨_, rfl⟩)

end Datum

namespace Bindings

/-- The name that a variable stands for, if it is an alias. -/
def alias? (b : Bindings) (name : String) : Option String :=
  match b.lookup name with
  | some (.sameAs other) => some other
  | _ => none

/-- The name that `k` aliases lead to. -/
def chain (b : Bindings) (name : String) : (k : Nat) → Option String
  | 0 => some name
  | k + 1 => (b.chain name k).bind b.alias?

/-- The names that are bound, each once. -/
def names (b : Bindings) : List String := (b.map Prod.fst).dedup

/-- The value of a variable by at most `lookups` lookups. A name in `seen` is not looked up again. -/
def resolveWithin (b : Bindings) (lookups : Nat) (seen : List String) (name : String) :
    Option (Except EvalError Value) :=
  if name ∈ seen then some (.error (.unresolved name))
  else
    match lookups with
    | 0 => none
    | lookups + 1 =>
      match (b.find name).read with
      | .error _ => some (.error (.ofUnsupported name (b.find name)))
      | .ok .missing => some (.error (.unresolved name))
      | .ok (.value v) => some (.ok v)
      | .ok (.sameAs other) => b.resolveWithin lookups (name :: seen) other

/-- How a resolution ends. -/
inductive Ending
  | value (v : Value)
  /-- At a name that is unbound or bound to null. -/
  | gap (name : String)
  /-- At a name that is met a second time. -/
  | cycle (name : String)
  | unsupported (name : String) (d : Datum)

def Ending.outcome : Ending → Except EvalError Value
  | value v => .ok v
  | gap name => .error (.unresolved name)
  | cycle name => .error (.unresolved name)
  | unsupported name d => .error (.ofUnsupported name d)

/-- A name that is no alias, and what it is instead. -/
inductive StopsAt (b : Bindings) (name : String) : Ending → Prop
  | value {d : Datum} {v : Value} (hd : b.lookup name = some d) (hv : d.read = .ok (.value v)) :
      StopsAt b name (.value v)
  | absent (h : b.lookup name = none) : StopsAt b name (.gap name)
  | null (h : b.lookup name = some (.plain .null)) : StopsAt b name (.gap name)
  | unsupported {d : Datum} {u : Datum.Unsupported} (hd : b.lookup name = some d)
      (hu : d.read = .error u) : StopsAt b name (.unsupported name d)

/-- The chain from `name` stops at a name that is no alias, or comes back to a name; of all names that
it meets twice, `cycle` tells the first to be met again. -/
inductive Ends (b : Bindings) (name : String) : Ending → Prop
  | stop {k : Nat} {n : String} {e : Ending} (hn : b.chain name k = some n) (h : b.StopsAt n e) :
      Ends b name e
  | cycle {i j : Nat} {n : String} (hij : i < j) (hi : b.chain name i = some n)
      (hj : b.chain name j = some n)
      (first : ∀ i' j', i' < j' → j' < j → b.chain name i' ≠ b.chain name j') :
      Ends b name (.cycle n)

variable {b c : Bindings} {name other start : String} {seen : List String} {e e' : Ending}
  {k : Nat}

/-! ### One lookup -/

theorem alias?_eq_some_iff : b.alias? name = some other ↔ b.lookup name = some (.sameAs other) := by
  unfold alias?
  cases b.lookup name with
  | none => simp
  | some d => cases d <;> simp

theorem stopsAt_or_alias (b : Bindings) (name : String) :
    (∃ e, b.StopsAt name e) ∨ ∃ other, b.alias? name = some other := by
  cases hd : b.lookup name with
  | none => exact .inl ⟨_, .absent hd⟩
  | some d =>
    cases hread : d.read with
    | error u => exact .inl ⟨_, .unsupported hd hread⟩
    | ok r =>
      rcases Datum.read_cases hread with ⟨-, rfl⟩ | ⟨v, rfl⟩ | ⟨other, -, rfl⟩
      · exact .inl ⟨_, .null hd⟩
      · exact .inl ⟨_, .value hd hread⟩
      · exact .inr ⟨other, alias?_eq_some_iff.2 hd⟩

namespace StopsAt

theorem alias?_eq_none (h : b.StopsAt name e) : b.alias? name = none := by
  cases halias : b.alias? name with
  | none => rfl
  | some other =>
    have hother := alias?_eq_some_iff.1 halias
    cases h with
    | value hd hv => cases hother.symm.trans hd; cases hv
    | absent h => cases hother.symm.trans h
    | null h => cases hother.symm.trans h
    | unsupported hd hu => cases hother.symm.trans hd; cases hu

theorem congr (h : b.StopsAt name e) (hc : c.lookup name = b.lookup name) : c.StopsAt name e := by
  cases h with
  | value hd hv => exact .value (hc.trans hd) hv
  | absent h => exact .absent (hc.trans h)
  | null h => exact .null (hc.trans h)
  | unsupported hd hu => exact .unsupported (hc.trans hd) hu

theorem resolve_eq (h : b.StopsAt name e) : b.resolve name = e.outcome := by
  rw [Bindings.resolve_eq]
  cases h with
  | value hd hv => simp only [hd, hv]; rfl
  | absent h => simp only [h]; rfl
  | null h => simp only [h]; rfl
  | unsupported hd hu => simp only [hd, hu]; rfl

theorem resolveWithin_eq (h : b.StopsAt name e) (hnew : name ∉ seen) :
    b.resolveWithin (k + 1) seen name = some e.outcome := by
  rw [resolveWithin, if_neg hnew]
  cases h with
  | value hd hv => simp only [find, hd, Option.getD_some, hv]; rfl
  | absent h => simp only [find, h]; rfl
  | null h => simp only [find, h]; rfl
  | unsupported hd hu => simp only [find, hd, Option.getD_some, hu]; rfl

end StopsAt

theorem resolve_of_alias (h : b.alias? name = some other) :
    b.resolve name = (b.without name).resolve other := by
  rw [resolve_eq, alias?_eq_some_iff.1 h]
  rfl

theorem resolveWithin_of_alias (h : b.alias? name = some other) (hnew : name ∉ seen) :
    b.resolveWithin (k + 1) seen name = b.resolveWithin k (name :: seen) other := by
  rw [resolveWithin, if_neg hnew, find, alias?_eq_some_iff.1 h]
  rfl

theorem mem_names_of_alias (h : b.alias? name = some other) : name ∈ b.names := by
  have hsome : b.any (·.1 == name) = true := by
    rw [← isSome_lookup, alias?_eq_some_iff.1 h]
    rfl
  obtain ⟨entry, hentry, hname⟩ := List.any_eq_true.1 hsome
  exact List.mem_dedup.2 (List.mem_map.2 ⟨entry, hentry, by simpa using hname⟩)

/-! ### The walk along a chain -/

theorem chain_succ {n : String} (h : b.chain start k = some n) :
    b.chain start (k + 1) = b.alias? n := by
  rw [chain, h, Option.bind_some]

/-- The names in `seen` are those of the chain before `name`, and no two of them are the same. -/
structure Visits (b : Bindings) (start : String) (seen : List String) (name : String) : Prop where
  here : b.chain start seen.length = some name
  mem_iff : ∀ n, n ∈ seen ↔ ∃ i < seen.length, b.chain start i = some n
  distinct : ∀ i j, i < j → j < seen.length → b.chain start i ≠ b.chain start j
  nodup : seen.Nodup
  bound : seen ⊆ b.names

namespace Visits

theorem initial (b : Bindings) (start : String) : b.Visits start [] start where
  here := rfl
  mem_iff := by simp
  distinct := by simp
  nodup := .nil
  bound := List.nil_subset _

theorem follow (h : b.Visits start seen name) (hnew : name ∉ seen)
    (halias : b.alias? name = some other) : b.Visits start (name :: seen) other where
  here := (chain_succ h.here).trans halias
  mem_iff n := by
    rw [List.mem_cons, h.mem_iff, List.length_cons]
    constructor
    · rintro (rfl | ⟨i, hi, hn⟩)
      · exact ⟨seen.length, Nat.lt_succ_self _, h.here⟩
      · exact ⟨i, Nat.lt_succ_of_lt hi, hn⟩
    · rintro ⟨i, hi, hn⟩
      rcases Nat.lt_succ_iff_lt_or_eq.1 hi with hi | rfl
      · exact .inr ⟨i, hi, hn⟩
      · exact .inl (Option.some.inj (hn.symm.trans h.here))
  distinct i j hij hj heq := by
    rcases Nat.lt_succ_iff_lt_or_eq.1 hj with hj | rfl
    · exact h.distinct i j hij hj heq
    · exact hnew ((h.mem_iff name).2 ⟨i, hij, heq.trans h.here⟩)
  nodup := List.nodup_cons.2 ⟨hnew, h.nodup⟩
  bound := List.cons_subset.2 ⟨mem_names_of_alias halias, h.bound⟩

theorem ends_cycle (h : b.Visits start seen name) (hmem : name ∈ seen) :
    b.Ends start (.cycle name) := by
  obtain ⟨i, hi, hn⟩ := (h.mem_iff name).1 hmem
  exact .cycle hi hn h.here h.distinct

/-- As long as there are lookups left for the bound names that were not seen, the walk comes to an
end, and the bindings of the other names resolve to the same. -/
theorem run {lookups : Nat} (h : b.Visits start seen name)
    (hc : ∀ n, c.lookup n = if n ∈ seen then none else b.lookup n)
    (henough : b.names.length + 1 ≤ lookups + seen.length) :
    ∃ e, b.Ends start e ∧ b.resolveWithin lookups seen name = some e.outcome ∧
      c.resolve name = e.outcome := by
  -- each lookup takes a bound name that is new, so lookups are left as long as names are
  induction lookups generalizing seen name c with
  | zero =>
    have hle : seen.length ≤ b.names.length := (List.subperm_of_subset h.nodup h.bound).length_le
    omega
  | succ lookups ih =>
    by_cases hmem : name ∈ seen
    · refine ⟨_, h.ends_cycle hmem, by rw [resolveWithin, if_pos hmem]; rfl, ?_⟩
      have hnone : c.lookup name = none := by rw [hc, if_pos hmem]
      exact (StopsAt.absent hnone).resolve_eq
    have hlookup : c.lookup name = b.lookup name := by rw [hc, if_neg hmem]
    rcases b.stopsAt_or_alias name with ⟨e, he⟩ | ⟨other, halias⟩
    · exact ⟨e, .stop h.here he, he.resolveWithin_eq hmem, (he.congr hlookup).resolve_eq⟩
    · have hcalias : c.alias? name = some other :=
        alias?_eq_some_iff.2 (hlookup.trans (alias?_eq_some_iff.1 halias))
      rw [resolveWithin_of_alias halias hmem, resolve_of_alias hcalias]
      refine ih (h.follow hmem halias) (fun n => ?_) (by rw [List.length_cons]; omega)
      rw [lookup_without, hc]
      by_cases hn : n = name <;> simp [hn]

end Visits

/-! ### One ending -/

theorem chain_eq_none_of_le {j : Nat} (hkj : k ≤ j) (h : b.chain start k = none) :
    b.chain start j = none := by
  induction hkj with
  | refl => exact h
  | step _ ih => rw [chain, ih, Option.bind_none]

theorem chain_add_eq {i j : Nat} (h : b.chain start i = b.chain start j) (m : Nat) :
    b.chain start (i + m) = b.chain start (j + m) := by
  induction m with
  | zero => exact h
  | succ m ih => rw [← Nat.add_assoc, ← Nat.add_assoc, chain, chain, ih]

theorem chain_ne_none_of_cycle {i j : Nat} {n : String} (hij : i < j)
    (hi : b.chain start i = some n) (hj : b.chain start j = some n) (k : Nat) :
    b.chain start k ≠ none := by
  induction k using Nat.strongRecOn with
  | ind k ih =>
    intro hk
    rcases Nat.lt_or_ge j k with hjk | hkj
    · -- beyond the second visit the chain repeats what came after the first
      have hback := chain_add_eq (hi.trans hj.symm) (k - j)
      rw [Nat.add_sub_cancel' (Nat.le_of_lt hjk), hk] at hback
      exact ih (i + (k - j)) (by omega) hback
    · cases hj.symm.trans (chain_eq_none_of_le hkj hk)

namespace StopsAt

theorem chain_succ_eq_none {n : String} (h : b.StopsAt n e) (hn : b.chain start k = some n) :
    b.chain start (k + 1) = none :=
  (chain_succ hn).trans h.alias?_eq_none

theorem unique (h : b.StopsAt name e) (h' : b.StopsAt name e') : e = e' := by
  cases h with
  | value hd hv =>
    cases h' with
    | value hd' hv' => cases hd.symm.trans hd'; cases hv.symm.trans hv'; rfl
    | absent h' => cases hd.symm.trans h'
    | null h' => cases hd.symm.trans h'; cases hv
    | unsupported hd' hu => cases hd.symm.trans hd'; cases hv.symm.trans hu
  | absent h =>
    cases h' with
    | value hd _ | unsupported hd _ => cases h.symm.trans hd
    | absent _ | null _ => rfl
  | null h =>
    cases h' with
    | value hd hread | unsupported hd hread => cases h.symm.trans hd; cases hread
    | absent _ | null _ => rfl
  | unsupported hd hu =>
    cases h' with
    | value hd' hv => cases hd.symm.trans hd'; cases hu.symm.trans hv
    | absent h' => cases hd.symm.trans h'
    | null h' => cases hd.symm.trans h'; cases hu
    | unsupported hd' hu' => cases hd.symm.trans hd'; rfl

end StopsAt

theorem Ends.unique (h : b.Ends start e) (h' : b.Ends start e') : e = e' := by
  cases h with
  | @stop k n _ hn hstop =>
    cases h' with
    | @stop k' n' _ hn' hstop' =>
      have hnone := hstop.chain_succ_eq_none hn
      have hnone' := hstop'.chain_succ_eq_none hn'
      -- after the place where it stops a chain has no names, so that it cannot stop twice
      have hk : k = k' := by
        by_contra hne
        rcases Nat.lt_or_gt_of_ne hne with hlt | hlt
        · cases hn'.symm.trans (chain_eq_none_of_le hlt hnone)
        · cases hn.symm.trans (chain_eq_none_of_le hlt hnone')
      subst hk
      cases hn.symm.trans hn'
      exact hstop.unique hstop'
    | cycle hij hi hj first =>
      exact absurd (hstop.chain_succ_eq_none hn) (chain_ne_none_of_cycle hij hi hj _)
  | @cycle i j n hij hi hj first =>
    cases h' with
    | stop hn' hstop' =>
      exact absurd (hstop'.chain_succ_eq_none hn') (chain_ne_none_of_cycle hij hi hj _)
    | @cycle i' j' n' hij' hi' hj' first' =>
      -- the earlier of two repetitions would have come first for both
      have hjj : j = j' := by
        by_contra hne
        rcases Nat.lt_or_gt_of_ne hne with hlt | hlt
        · exact first' i j hij hlt (hi.trans hj.symm)
        · exact first i' j' hij' hlt (hi'.trans hj'.symm)
      subst hjj
      cases hj.symm.trans hj'
      rfl

end Bindings

/-- **A resolution finds the end of the alias chain.** It takes at most one lookup for each bound name
and one more. The chain has exactly one ending: the value of the first name that is no alias, a name
that is absent or null, a datum without a value, or the first name that is met again; the ending tells
the value or the error. A datum without a value is the error if a message can show it; else the
resolution breaks off. -/
theorem resolution_finds_end_of_chain (b : Bindings) (name : String) :
    b.resolveWithin (b.names.length + 1) [] name = some ((Expr.leaf (.reference name)).eval b) ∧
    (∃! e, b.Ends name e) ∧
    (∀ v, (Expr.leaf (.reference name)).eval b = .ok v ↔ b.Ends name (.value v)) ∧
    (∀ n, (Expr.leaf (.reference name)).eval b = .error (.unresolved n) ↔
      b.Ends name (.gap n) ∨ b.Ends name (.cycle n)) ∧
    (∀ n d, (Expr.leaf (.reference name)).eval b = .error (.unsupportedValue n d) ↔
      b.Ends name (.unsupported n d) ∧ d.isShowable = true) ∧
    ((Expr.leaf (.reference name)).eval b = .error .tooManyDigits ↔
      ∃ n d, b.Ends name (.unsupported n d) ∧ d.isShowable = false) := by
  have hrun : ∃ e, b.Ends name e ∧
      b.resolveWithin (b.names.length + 1) [] name = some e.outcome ∧ b.resolve name = e.outcome :=
    (Bindings.Visits.initial b name).run (by simp) (Nat.le_refl _)
  obtain ⟨e, he, hwithin, hresolve⟩ := hrun
  have heval : (Expr.leaf (.reference name)).eval b = e.outcome := hresolve
  have hends (e' : Bindings.Ending) : b.Ends name e' ↔ e = e' :=
    ⟨fun h => he.unique h, fun h => h ▸ he⟩
  refine ⟨by rw [hwithin, heval], ⟨e, he, fun e' h => h.unique he⟩, ?_⟩
  simp only [heval, hends]
  cases e with
  | value _ | gap _ | cycle _ => simp [Bindings.Ending.outcome]
  | unsupported n d =>
    simp [Bindings.Ending.outcome, EvalError.ofUnsupported_eq_unsupportedValue_iff,
      EvalError.ofUnsupported_eq_tooManyDigits_iff, EvalError.ofUnsupported_ne_unresolved]

/-- An integer of 4301 digits. -/
def longInteger : Datum := .plain (.int (.ofNat (Number.leastBeyond Number.maxDigits)))

theorem not_isShowable_longInteger : longInteger.isShowable = false := by
  rw [longInteger, Datum.isShowable, Plain.int, Plain.isShowable, Number.isWritable_eq_false_iff]
  exact Nat.le_refl _

theorem stopsAt_longInteger (name : String) :
    Bindings.StopsAt [(name, longInteger)] name (.unsupported name longInteger) :=
  .unsupported (by simp) rfl

theorem resolve_longInteger (name : String) :
    Bindings.resolve [(name, longInteger)] name = .error .tooManyDigits := by
  rw [(stopsAt_longInteger name).resolve_eq, Bindings.Ending.outcome,
    EvalError.ofUnsupported_eq_tooManyDigits_iff.2 not_isShowable_longInteger]

/-- The integer has no value, and no error names its variable. -/
theorem longInteger_breaks_resolution :
    Bindings.Ends [("a", longInteger)] "a" (.unsupported "a" longInteger) ∧
      ∀ n d, (Expr.leaf (.reference "a")).eval [("a", longInteger)] ≠
        .error (.unsupportedValue n d) := by
  refine ⟨.stop (k := 0) rfl (stopsAt_longInteger "a"), fun n d h => ?_⟩
  cases (resolve_longInteger "a").symm.trans h

end Scaffold
