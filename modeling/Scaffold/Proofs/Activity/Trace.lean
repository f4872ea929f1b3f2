import Scaffold.Activity.Session
import Scaffold.Proofs.Descriptor.Conditions

/-!
# The log as a trace of a session

The log of a session grows by one entry with each decision about a node and never otherwise; the
entry tells the node and what came of the decision. What an action is answered depends on nothing
but the data that the variables have at its moment. `log_traces_decisions` says this of any actions.
-/

namespace Scaffold

/-! ### Messages are never empty -/

theorem append_ne_empty {s t : String} (h : s ≠ "" ∨ t ≠ "") : s ++ t ≠ "" := by
  intro hst
  obtain ⟨hs, ht⟩ := String.append_eq_empty_iff.1 hst
  exact h.elim (· hs) (· ht)

theorem SyntaxError.message_ne_empty (e : SyntaxError) : e.message ≠ "" := by
  rw [message]
  exact append_ne_empty (.inl (append_ne_empty (.inr (by decide))))

theorem EvalError.message_ne_empty (e : EvalError) : e.message ≠ "" := by
  cases e with
  | unresolved name => exact append_ne_empty (.inl (by decide))
  | operandKind operator found expected => exact append_ne_empty (.inr (by decide))
  | unsupportedValue name datum =>
    -- stated for any text, since the text of a datum is a long way to unfold
    have h (shown : String) : s!"Unsupported value for variable '{name}': {shown}" ≠ "" :=
      append_ne_empty (.inl (append_ne_empty (.inr (by decide))))
    exact h datum.shown
  | tooManyDigits => decide
  | unsupportedNode kind => exact append_ne_empty (.inl (by decide))

theorem ConditionError.message_ne_empty (e : ConditionError) : e.message ≠ "" := by
  cases e with
  | rejected e => exact e.message_ne_empty
  | failed e => exact e.message_ne_empty

namespace Activity

open Descriptor (Node)

/-! ### Entries -/

namespace Entry

/-- The entry tells which node was decided about and what came of it. A decision that breaks off counts
as skipped, and leaves neither an answer nor an error. -/
structure Tells (n : Node) (d : Except ConditionError Bool) (e : Entry) : Prop where
  active : e.status = .active ↔ d = .ok true
  skipped : e.status = .skipped ↔ d = .ok false ∨ d = .error (.failed .tooManyDigits)
  failed : e.status = .failed ↔ ∃ err, d = .error err ∧ err ≠ .failed .tooManyDigits
  error : ∀ err, d = .error err → err ≠ .failed .tooManyDigits → e.error = some err.message
  brokenOff : d = .error (.failed .tooManyDigits) → e.active = none ∧ e.error = none
  nodeKind : e.nodeKind = n.kind.name
  label : e.label = n.label
  onlyIf : e.onlyIf = n.onlyIf
  exceptIf : e.exceptIf = n.exceptIf

theorem error_ofDecision (n : Node) {err : ConditionError} (h : err ≠ .failed .tooManyDigits) :
    (ofDecision n (.error err)).error = some err.message :=
  if_pos (ConditionError.isReported_eq_true_iff.2 h)

theorem status_of_error (n : Node) {err : ConditionError} (h : err ≠ .failed .tooManyDigits) :
    (ofDecision n (.error err)).status = .failed := by
  -- the status is read off the message: an empty one would pass for no error
  have hstated : stated (some err.message) = some err.message := by
    rw [stated, Option.filter_some, if_pos (by simpa using err.message_ne_empty)]
  rw [status, error_ofDecision n h, hstated]
  rfl

theorem status_ofDecision_iff (n : Node) (d : Except ConditionError Bool) (s : Status) :
    (ofDecision n d).status = s ↔
      match s with
      | .active => d = .ok true
      | .skipped => d = .ok false ∨ d = .error (.failed .tooManyDigits)
      | .failed => ∃ err, d = .error err ∧ err ≠ .failed .tooManyDigits := by
  cases d with
  | ok x => cases x <;> cases s <;> simp [ofDecision, status, stated, Except.toOption]
  | error err =>
    by_cases h : err = .failed .tooManyDigits
    · subst h
      have hstatus : (ofDecision n (.error (.failed .tooManyDigits))).status = .skipped := rfl
      cases s <;> simp [hstatus]
    · rw [status_of_error n h]
      cases s <;> simp [h]

theorem tells_ofDecision (n : Node) (d : Except ConditionError Bool) :
    (ofDecision n d).Tells n d where
  active := status_ofDecision_iff n d .active
  skipped := status_ofDecision_iff n d .skipped
  failed := status_ofDecision_iff n d .failed
  error := by
    rintro err rfl h
    exact error_ofDecision n h
  brokenOff := by
    rintro rfl
    exact ⟨rfl, rfl⟩
  nodeKind := rfl
  label := rfl
  onlyIf := rfl
  exceptIf := rfl

end Entry

theorem Log.count_add (l : Log) :
    l.count .active + l.count .skipped + l.count .failed = l.entries.length := by
  obtain ⟨entries⟩ := l
  simp only [Log.count]
  induction entries with
  | nil => rfl
  | cons e entries ih =>
    simp only [List.countP_cons, List.length_cons]
    cases e.status <;> simp <;> omega

/-! ### Actions -/

namespace Action

/-- Is this a decision about a node? -/
def isDecision : Action → Bool
  | decide _ => true
  | _ => false

/-- Is this a question that the variables answer? -/
def isQuestion : Action → Bool
  | decide _ | evaluate .. | evaluateTree _ | satisfy .. | satisfyTree _ => true
  | set .. | unset _ | report => false

/-- The data of the variables after an action. -/
def change (data : String → Option Datum) : Action → String → Option Datum
  | set name d => fun other => if other = name then some d else data other
  | unset name => fun other => if other = name then none else data other
  | _ => data

end Action

/-- The data of the variables after actions: the last change of a variable counts. -/
def dataAfter (b : Bindings) (as : List Action) : String → Option Datum :=
  as.foldl Action.change fun name => b.lookup name

/-- Each datum was there before the changes, or one of them has set it. -/
theorem foldl_change_cases {data : String → Option Datum} {as : List Action} {name : String}
    {d : Datum} (h : as.foldl Action.change data name = some d) :
    data name = some d ∨ .set name d ∈ as := by
  -- on the actions, whatever the first one finds: each of them sets a name, unsets it, or
  -- changes nothing
  induction as generalizing data with
  | nil => exact .inl h
  | cons a as ih =>
    rcases ih h with hd | hmem
    · cases a with
      | set other d' =>
        simp only [Action.change] at hd
        split at hd
        · next heq =>
          subst heq
          cases hd
          exact .inr List.mem_cons_self
        · exact .inl hd
      | unset other =>
        simp only [Action.change] at hd
        split at hd
        · cases hd
        · exact .inl hd
      | decide _ | evaluate _ _ | evaluateTree _ | satisfy _ _ | satisfyTree _ | report =>
        exact .inl hd
    · exact .inr (List.mem_cons_of_mem _ hmem)

/-- The decision that an action was answered with, and its node. -/
def decision? : Action × Outcome → Option (Node × Except ConditionError Bool)
  | (.decide n, .decision d) => some (n, d)
  | _ => none

/-- The decisions among actions and their answers. -/
def decisions (as : List Action) (os : List Outcome) : List (Node × Except ConditionError Bool) :=
  (as.zip os).filterMap decision?

theorem decisions_cons (a : Action) (as : List Action) (o : Outcome) (os : List Outcome) :
    decisions (a :: as) (o :: os) = (decision? (a, o)).toList ++ decisions as os := by
  rw [decisions, List.zip_cons_cons, List.filterMap_cons]
  cases decision? (a, o) <;> rfl

namespace Session

variable (s : Session) (a : Action) (as : List Action) {b c : Bindings}

theorem entries_perform :
    (s.perform a).2.log.entries = s.log.entries ++
      (decision? (a, (s.perform a).1)).toList.map fun c => Entry.ofDecision c.1 c.2 := by
  cases a with
  | decide n => rfl
  | set _ _ | unset _ | evaluate _ _ | evaluateTree _ | satisfy _ _ | satisfyTree _ | report =>
    exact (List.append_nil _).symm

theorem log_perform (h : a.isDecision = false) : (s.perform a).2.log = s.log := by
  cases a with
  | decide n => cases h
  | set _ _ | unset _ | evaluate _ _ | evaluateTree _ | satisfy _ _ | satisfyTree _ | report => rfl

theorem isSome_decision? : (decision? (a, (s.perform a).1)).isSome = a.isDecision := by
  cases a <;> rfl

theorem lookup_perform (name : String) :
    (s.perform a).2.bindings.lookup name = a.change (fun name => s.bindings.lookup name) name := by
  cases a with
  | set other d => exact Bindings.lookup_set
  | unset other => exact Bindings.lookup_without
  | decide _ | evaluate _ _ | evaluateTree _ | satisfy _ _ | satisfyTree _ | report => rfl

theorem perform_eq_of_agrees (h : b.Agrees c) (ha : a.isQuestion = true) (l m : Log) :
    (perform ⟨b, l⟩ a).1 = (perform ⟨c, m⟩ a).1 := by
  have hcond (text : String) : b.satisfy text = c.satisfy text := by
    simp only [Bindings.satisfy, Expr.holds_congr h]
  cases a with
  | decide n =>
    have hactive : n.isActive b = n.isActive c := by
      simp only [Node.isActive, hcond]
    show Outcome.decision (n.isActive b) = .decision (n.isActive c)
    rw [hactive]
  | evaluate d text => simp only [perform, evaluate, evaluateTree, Expr.eval_congr h]
  | evaluateTree e => simp only [perform, evaluateTree, Expr.eval_congr h]
  | satisfy d text => simp only [perform, satisfy, satisfyTree, Expr.holds_congr h]
  | satisfyTree e => simp only [perform, satisfyTree, Expr.holds_congr h]
  | set _ _ | unset _ | report => cases ha

/-! ### Runs -/

theorem run_cons :
    s.run (a :: as) =
      ((s.perform a).1 :: ((s.perform a).2.run as).1, ((s.perform a).2.run as).2) := rfl

theorem length_run : (s.run as).1.length = as.length := by
  induction as generalizing s with
  | nil => rfl
  | cons a as ih => rw [run_cons, List.length_cons, ih, List.length_cons]

theorem entries_run :
    (s.run as).2.log.entries = s.log.entries ++
      (decisions as (s.run as).1).map fun c => Entry.ofDecision c.1 c.2 := by
  induction as generalizing s with
  | nil => exact (List.append_nil _).symm
  | cons a as ih =>
    rw [run_cons, ih, entries_perform, decisions_cons, List.map_append, List.append_assoc]

theorem length_decisions : (decisions as (s.run as).1).length = as.countP Action.isDecision := by
  induction as generalizing s with
  | nil => rfl
  | cons a as ih =>
    rw [run_cons, decisions_cons, List.length_append, ih, List.countP_cons, ← s.isSome_decision? a,
      Nat.add_comm]
    cases decision? (a, (s.perform a).1) <;> rfl

theorem lookup_run (name : String) :
    (s.run as).2.bindings.lookup name = dataAfter s.bindings as name := by
  induction as generalizing s with
  | nil => rfl
  | cons a as ih =>
    have hstep : (fun name => (s.perform a).2.bindings.lookup name) =
        a.change fun name => s.bindings.lookup name := funext (s.lookup_perform a)
    rw [run_cons, ih, dataAfter, hstep]
    rfl

theorem getElem?_run (i : Nat) :
    (s.run as).1[i]? = as[i]?.map fun a => ((s.run (as.take i)).2.perform a).1 := by
  induction as generalizing s i with
  | nil => rfl
  | cons a as ih =>
    rw [run_cons]
    cases i with
    | zero => rfl
    | succ i =>
      rw [List.getElem?_cons_succ, List.getElem?_cons_succ, ih, List.take_succ_cons, run_cons]

/-- Each decision is the one that the bindings of its moment lead to. -/
theorem exists_isActive_of_mem_decisions {n : Node} {d : Except ConditionError Bool}
    (h : (n, d) ∈ decisions as (s.run as).1) :
    ∃ i, d = n.isActive (s.run (as.take i)).2.bindings := by
  obtain ⟨⟨a, o⟩, hmem, hdecision⟩ := List.mem_filterMap.1 h
  obtain ⟨i, hi⟩ := List.mem_iff_getElem?.1 hmem
  obtain ⟨ha, ho⟩ := List.getElem?_zip_eq_some.1 hi
  have hperform : ((s.run (as.take i)).2.perform a).1 = o := by
    rw [getElem?_run, ha, Option.map_some] at ho
    exact Option.some.inj ho
  refine ⟨i, ?_⟩
  rw [← hperform] at hdecision
  cases a with
  | decide m =>
    cases hdecision
    rfl
  | set _ _ | unset _ | evaluate _ _ | evaluateTree _ | satisfy _ _ | satisfyTree _ | report =>
    cases hdecision

/-- A decision breaks off only if a datum that no message can show has come into the bindings. -/
theorem exists_datum_of_mem_decisions {n : Node}
    (h : (n, .error (.failed .tooManyDigits)) ∈ decisions as (s.run as).1) :
    ∃ name d, (s.bindings.lookup name = some d ∨ .set name d ∈ as) ∧ d.isShowable = false := by
  obtain ⟨i, hi⟩ := s.exists_isActive_of_mem_decisions as h
  obtain ⟨name, d, -, hd, hlong⟩ := Node.exists_reads_of_tooManyDigits hi.symm
  rw [lookup_run] at hd
  refine ⟨name, d, ?_, hlong⟩
  rcases foldl_change_cases hd with hd | hmem
  · exact .inl hd
  · exact .inr (List.mem_of_mem_take hmem)

end Session

/-- **The log is a trace of the decisions.** Over any actions it has one entry for each decision
about a node, in their order, which tells the node and what came of the decision; no other action
touches it, and at any point its three counts come to the number of decisions so far. Decisions break
off, to be told as skipped, only once a variable has a datum that no message can show. Each question
is answered as a new session would answer it whose variables have the data of that moment. -/
theorem log_traces_decisions (b : Bindings) (as : List Action) :
    let outcomes := (Session.run { bindings := b } as).1
    let log := (Session.run { bindings := b } as).2.log
    outcomes.length = as.length ∧
    List.Forall₂ (fun c e => Entry.Tells c.1 c.2 e) (decisions as outcomes) log.entries ∧
    (decisions as outcomes).length = as.countP Action.isDecision ∧
    (∀ n, (n, .error (.failed .tooManyDigits)) ∈ decisions as outcomes →
      ∃ name d, (b.lookup name = some d ∨ .set name d ∈ as) ∧ d.isShowable = false) ∧
    (∀ (s : Session) (a : Action), a.isDecision = false → (s.perform a).2.log = s.log) ∧
    (∀ k, let soFar := (Session.run { bindings := b } (as.take k)).2.log
      soFar.count .active + soFar.count .skipped + soFar.count .failed =
        (as.take k).countP Action.isDecision) ∧
    ∀ (i : Nat) (a : Action), as[i]? = some a → a.isQuestion = true →
      ∀ c : Bindings, (∀ name, c.lookup name = dataAfter b (as.take i) name) →
        outcomes[i]? = some (Session.perform { bindings := c } a).1 := by
  intro outcomes log
  refine ⟨Session.length_run _ as, ?_, Session.length_decisions _ as,
    fun n hn => Session.exists_datum_of_mem_decisions _ as hn, Session.log_perform, ?_, ?_⟩
  · have hentries : log.entries = [] ++ _ := Session.entries_run { bindings := b } as
    rw [hentries, List.nil_append, List.forall₂_map_right_iff, List.forall₂_same]
    intro c _
    exact Entry.tells_ofDecision c.1 c.2
  · intro k soFar
    have hentries : soFar.entries = [] ++ _ := Session.entries_run { bindings := b } (as.take k)
    rw [Log.count_add, hentries, List.nil_append, List.length_map, Session.length_decisions]
  · intro i a hi ha c hc
    -- the actions before the question have led to bindings that agree with the data told of them
    have hagrees : (Session.run { bindings := b } (as.take i)).2.bindings.Agrees c := by
      intro name
      rw [Session.lookup_run, hc]
    have houtcome : outcomes[i]? = _ := Session.getElem?_run { bindings := b } as i
    rw [houtcome, hi, Option.map_some]
    exact congrArg some (Session.perform_eq_of_agrees a hagrees ha _ _)

/-- A block under a condition is decided about while its variable is true and after it is unset. -/
theorem log_of_block_with_change :
    let block : Node := .mk .contextBlock [.children .nodes [],
      .scalar .onlyIf (.text (some "$x")), .scalar .exceptIf (.text none)]
    let actions : List Action :=
      [.set "x" (.plain (.bool true)), .decide block, .unset "x", .decide block]
    let log := (Session.run { bindings := [] } actions).2.log
    log.count .active + log.count .skipped + log.count .failed = 2 ∧
      (Session.run { bindings := [] } actions).1[1]? =
        some (Session.perform { bindings := [("x", .plain (.bool true))] } (.decide block)).1 := by
  intro block actions log
  obtain ⟨-, -, -, -, -, hcount, hanswer⟩ := log_traces_decisions [] actions
  exact ⟨hcount 4, hanswer 1 _ rfl rfl _ fun name => lookup_cons_eq⟩

/-- A decision that comes to no answer leaves an entry like one about a node that is not active. -/
theorem skipped_entry_of_broken_decision :
    let block := Descriptor.guardedBlock "$a == 'x'" "$b"
    let after := Session.run { bindings := [("a", longInteger)] } [.decide block]
    after.1 = [.decision (.error (.failed .tooManyDigits))] ∧
      after.2.log.entries.map (fun e => (e.status, e.active, e.error)) = [(.skipped, none, none)] := by
  simp only [Session.run, Session.perform, Log.decide, Descriptor.isActive_longInteger]
  exact ⟨trivial, rfl⟩

end Activity

end Scaffold
