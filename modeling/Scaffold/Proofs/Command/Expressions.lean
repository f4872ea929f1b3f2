import Scaffold.Command.Run
import Scaffold.Proofs.Eval.Footprint
import Scaffold.Proofs.Expr.Faithfulness

/-!
# How the command on an expression ends

`expr` prints an expression, or evaluates it over definitions `NAME=VALUE`. Whatever it can read it can
print, so printing never fails; an evaluation in the stack syntax fails with a message, unless a
definition without a text stops the run (`ExprEnds.stranded`). `ExprEnds` lists all endings.
-/

namespace Scaffold.Command

/-! ### Definitions -/

/-- A definition gives a value to a name: the name is all that stands before the first equals sign. -/
inductive Assigns : Option String → String × String → Prop
  | mk {name value : String} (hname : name ≠ "") (hequals : '=' ∉ name.toList) :
      Assigns (some (name ++ "=" ++ value)) (name, value)

/-- The bindings that definitions make. The last one of a name comes first, so that it counts. -/
def definedBindings (ps : List (String × String)) : Bindings :=
  ps.reverse.map fun p => (p.1, .plain (.text p.2))

theorem split_equals_iff {cs name value : List Char} :
    cs.takeWhile (· ≠ '=') = name ∧ cs.dropWhile (· ≠ '=') = '=' :: value ↔
      cs = name ++ '=' :: value ∧ '=' ∉ name := by
  constructor
  · rintro ⟨rfl, hvalue⟩
    refine ⟨by rw [← hvalue, List.takeWhile_append_dropWhile], fun hmem => ?_⟩
    exact absurd (List.all_takeWhile (p := (· ≠ '=')) (l := cs)) fun hall => by
      simpa using List.all_eq_true.1 hall _ hmem
  · rintro ⟨rfl, hequals⟩
    have hall : ∀ c ∈ name, decide (c ≠ '=') = true := fun c hc => by
      have hne : c ≠ '=' := fun heq => hequals (heq ▸ hc)
      simpa using hne
    rw [List.takeWhile_append_of_pos hall, List.dropWhile_append_of_pos hall]
    simp

theorem splitDefinition?_eq_some_iff {text : String} {p : String × String} :
    splitDefinition? text = some p ↔ Assigns (some text) p := by
  constructor
  · intro h
    simp only [splitDefinition?] at h
    split at h
    · next c name value htake hdrop =>
      cases h
      obtain ⟨htext, hequals⟩ := split_equals_iff.1 ⟨htake, hdrop⟩
      have hassigns : Assigns (some (String.ofList (c :: name) ++ "=" ++ String.ofList value))
          (String.ofList (c :: name), String.ofList value) :=
        .mk (by simp) (by rwa [String.toList_ofList])
      -- the name may hold no equals sign, so the split is at the first one
      have heq : text = String.ofList (c :: name) ++ "=" ++ String.ofList value :=
        String.toList_injective (by simpa using htext)
      rw [heq]
      exact hassigns
    · cases h
  · rintro (@⟨name, value, hname, hequals⟩)
    have htext : (name ++ "=" ++ value).toList = name.toList ++ '=' :: value.toList := by simp
    obtain ⟨htake, hdrop⟩ := split_equals_iff.2 ⟨htext, hequals⟩
    simp only [splitDefinition?, htake, hdrop]
    cases hchars : name.toList with
    | nil => exact absurd (String.toList_eq_nil_iff.1 hchars) hname
    | cons c cs =>
      show some (String.ofList (c :: cs), String.ofList value.toList) = some (name, value)
      rw [← hchars, String.ofList_toList, String.ofList_toList]

section Definitions

variable {definition : Option String} {definitions : List (Option String)} {p : String × String}
  {ps : List (String × String)} {b : Bindings}

/-- What is said of a definition that gives no value. -/
def refusal : Option String → LoadError
  | none => .noDefinition
  | some text => .invalidDefinition text

theorem define_of_assigns (h : Assigns definition p) (b : Bindings) :
    define .stack b definition = .ok (b.set p.1 (.plain (.text p.2))) := by
  cases definition with
  | none => cases h
  | some text => rw [define, splitDefinition?_eq_some_iff.2 h]; rfl

theorem define_of_not_assigns (h : ∀ p, ¬ Assigns definition p) (b : Bindings) :
    define .stack b definition = .error (refusal definition) := by
  cases definition with
  | none => rfl
  | some text =>
    have hnone : splitDefinition? text = none := by
      rw [Option.eq_none_iff_forall_ne_some]
      exact fun p hp => h p (splitDefinition?_eq_some_iff.1 hp)
    rw [define, hnone]
    rfl

theorem foldlM_define_of_assigns (h : List.Forall₂ Assigns definitions ps) (b : Bindings) :
    ∃ b', definitions.foldlM (define .stack) b = .ok b' ∧ b'.Agrees (definedBindings ps ++ b) := by
  induction h generalizing b with
  | nil => exact ⟨b, rfl, fun _ => rfl⟩
  | @cons definition p definitions ps hp _ ih =>
    obtain ⟨b', hb', hagrees⟩ := ih (b.set p.1 (.plain (.text p.2)))
    refine ⟨b', by rw [List.foldlM_cons, define_of_assigns hp]; exact hb', fun name => ?_⟩
    rw [hagrees name, List.lookup_append, Bindings.lookup_set, definedBindings, definedBindings,
      List.reverse_cons, List.map_append, List.append_assoc, List.lookup_append]
    exact congrArg _ lookup_cons_eq.symm

theorem foldlM_define_of_refused {before after : List (Option String)}
    (hbefore : List.Forall₂ Assigns before ps) (hdefinition : ∀ p, ¬ Assigns definition p) :
    (before ++ definition :: after).foldlM (define .stack) b = .error (refusal definition) := by
  obtain ⟨b', hb', -⟩ := foldlM_define_of_assigns hbefore b
  rw [List.foldlM_append, hb']
  show (definition :: after).foldlM (define .stack) b' = _
  rw [List.foldlM_cons, define_of_not_assigns hdefinition]
  rfl

theorem exists_assigns_or_refused (definitions : List (Option String)) :
    (∃ ps, List.Forall₂ Assigns definitions ps) ∨
      ∃ before definition after ps, definitions = before ++ definition :: after ∧
        List.Forall₂ Assigns before ps ∧ ∀ p, ¬ Assigns definition p := by
  induction definitions with
  | nil => exact .inl ⟨[], .nil⟩
  | cons definition definitions ih =>
    by_cases hp : ∃ p, Assigns definition p
    · obtain ⟨p, hp⟩ := hp
      rcases ih with ⟨ps, hps⟩ | ⟨before, refused, after, ps, rfl, hps, hrefused⟩
      · exact .inl ⟨p :: ps, .cons hp hps⟩
      · exact .inr ⟨definition :: before, refused, after, p :: ps, rfl, .cons hp hps, hrefused⟩
    · exact .inr ⟨[], definition, definitions, [], rfl, .nil, fun p h => hp ⟨p, h⟩⟩

end Definitions

/-! ### Endings -/

/-- How the command on an expression ends that is printed, or evaluated over definitions alone. -/
inductive ExprEnds (d : Dialect) (printOnly : Bool) (text : String)
    (definitions : List (Option String)) : Except Crash Outcome → Prop
  /-- The text is no expression. -/
  | rejected {e : SyntaxError} (hparse : d.parse text = .error e) :
      ExprEnds d printOnly text definitions (.ok (.error e.message))
  | printed {t : Expr} {s : String} (honly : printOnly = true) (hparse : d.parse text = .ok t)
      (hprint : d.print t = .ok s) : ExprEnds d printOnly text definitions (.ok (.line s))
  /-- A definition is not of the form `NAME=VALUE`. -/
  | refused {t : Expr} {before after : List (Option String)} {definition : String}
      {ps : List (String × String)} (heval : printOnly = false) (hparse : d.parse text = .ok t)
      (hsplit : definitions = before ++ some definition :: after)
      (hbefore : List.Forall₂ Assigns before ps) (hrefused : ∀ p, ¬ Assigns (some definition) p) :
      ExprEnds d printOnly text definitions (.ok (.error (LoadError.invalidDefinition definition).message))
  /-- A definition has no text at all. -/
  | stranded {t : Expr} {before after : List (Option String)} {ps : List (String × String)}
      (heval : printOnly = false) (hparse : d.parse text = .ok t)
      (hsplit : definitions = before ++ none :: after) (hbefore : List.Forall₂ Assigns before ps) :
      ExprEnds d printOnly text definitions (.error (.loading .noDefinition))
  | failed {t : Expr} {ps : List (String × String)} {err : EvalError} (heval : printOnly = false)
      (hparse : d.parse text = .ok t) (hps : List.Forall₂ Assigns definitions ps)
      (herr : t.eval (definedBindings ps) = .error err) :
      ExprEnds d printOnly text definitions (.ok (.error err.message))
  | evaluated {t : Expr} {ps : List (String × String)} {v : Value} (heval : printOnly = false)
      (hparse : d.parse text = .ok t) (hps : List.Forall₂ Assigns definitions ps)
      (hv : t.eval (definedBindings ps) = .ok v) :
      ExprEnds d printOnly text definitions (.ok (.line (shownValue v)))

section Endings

variable {d : Dialect} {printOnly : Bool} {text : String} {definitions : List (Option String)}
  {t : Expr} {b : Except LoadError Bindings}

theorem exists_print_of_parse (hparse : d.parse text = .ok t) : ∃ s, d.print t = .ok s := by
  obtain ⟨s, hprint, -⟩ := Dialect.exists_print_parse (Dialect.wellFormed_of_parse hparse)
  exact ⟨s, hprint⟩

theorem runExpr_print {s : String} (hparse : d.parse text = .ok t) (hprint : d.print t = .ok s) :
    runExpr d true text b = .ok (.line s) := by
  rw [runExpr, hparse]
  show ((d.print t).mapError Crash.unwritable).map Outcome.line = _
  rw [hprint]
  rfl

theorem runExpr_eval (hparse : d.parse text = .ok t) : runExpr d false text b = evaluate b t := by
  rw [runExpr, hparse]
  rfl

theorem exists_text_of_lookup {ps : List (String × String)} {name : String} {d : Datum}
    (h : (definedBindings ps).lookup name = some d) : ∃ value, d = .plain (.text value) := by
  have hlookup : (definedBindings ps).lookup name =
      (ps.reverse.lookup name).map fun value => Datum.plain (.text value) :=
    lookup_map_snd fun value => Datum.plain (.text value)
  obtain ⟨value, -, hd⟩ := Option.map_eq_some_iff.1 (hlookup.symm.trans h)
  exact ⟨value, hd.symm⟩

theorem exists_text_of_resolve {ps : List (String × String)} {name : String} {v : Value}
    (h : (definedBindings ps).resolve name = .ok v) : ∃ value, v = .text value := by
  cases hd : (definedBindings ps).lookup name with
  | none => cases h.symm.trans (Bindings.StopsAt.absent hd).resolve_eq
  | some d =>
    obtain ⟨value, rfl⟩ := exists_text_of_lookup hd
    cases h.symm.trans (Bindings.StopsAt.value hd rfl).resolve_eq
    exact ⟨value, rfl⟩

/-- No surrogates come from definitions, nor from the expression itself. -/
theorem ne_brokenText_of_eval {ps : List (String × String)} {v : Value}
    (h : t.eval (definedBindings ps) = .ok v) (broken : Text.Broken) : v ≠ .brokenText broken := by
  rintro rfl
  cases hleaf : t.isLeaf with
  | false =>
    obtain ⟨x, hx⟩ := Expr.exists_truth_of_eval hleaf h
    cases hx
  | true =>
    cases t with
    | leaf l =>
      cases l with
      | reference name =>
        obtain ⟨value, hvalue⟩ := exists_text_of_resolve h
        cases hvalue
      | literal _ | truth _ | array _ => cases h
    | not _ | comparison _ _ _ | condition _ _ _ | foreign _ => cases hleaf

theorem printValue_eq {v : Value} (h : ∀ broken, v ≠ .brokenText broken) :
    printValue v = .ok (.line (shownValue v)) := by
  cases v with
  | brokenText broken => exact absurd rfl (h broken)
  | truth _ | text _ | array _ | brokenArray _ => rfl

/-- Definitions give texts, which messages and results can show, so that no evaluation over them breaks
off. -/
theorem evaluate_definedBindings (ps : List (String × String)) (t : Expr) :
    evaluate (.ok (definedBindings ps)) t =
      match t.eval (definedBindings ps) with
      | .error err => .ok (.error err.message)
      | .ok v => .ok (.line (shownValue v)) := by
  rw [evaluate]
  cases heval : t.eval (definedBindings ps) with
  | ok v => exact printValue_eq (ne_brokenText_of_eval heval)
  | error err =>
    refine if_pos (EvalError.isReported_eq_true_iff.2 ?_)
    rintro rfl
    obtain ⟨n, d, -, hd, hlong⟩ := Expr.exists_reads_of_tooManyDigits heval
    obtain ⟨value, rfl⟩ := exists_text_of_lookup hd
    cases hlong

theorem runExpr_of_assigns {opener : File.Opener} {ps : List (String × String)}
    (hparse : Dialect.stack.parse text = .ok t) (hps : List.Forall₂ Assigns definitions ps) :
    runExpr .stack false text (loadBindings .stack opener none definitions) =
      evaluate (.ok (definedBindings ps)) t := by
  obtain ⟨b, hb, hagrees⟩ := foldlM_define_of_assigns hps []
  have hload : loadBindings .stack opener none definitions = .ok b := hb
  rw [List.append_nil] at hagrees
  rw [runExpr_eval hparse, hload, evaluate, evaluate, t.eval_congr hagrees]

theorem runExpr_of_refused {opener : File.Opener} {before after : List (Option String)}
    {definition : Option String} {ps : List (String × String)}
    (hparse : Dialect.stack.parse text = .ok t) (hbefore : List.Forall₂ Assigns before ps)
    (hrefused : ∀ p, ¬ Assigns definition p) :
    runExpr .stack false text
        (loadBindings .stack opener none (before ++ definition :: after)) =
      evaluate (.error (refusal definition)) t := by
  have hload : loadBindings .stack opener none (before ++ definition :: after) =
      .error (refusal definition) := foldlM_define_of_refused hbefore hrefused
  rw [runExpr_eval hparse, hload]

/-- Every run has one of the endings. -/
theorem exprEnds_runExpr {opener : File.Opener} {path : Option String}
    (hcase : printOnly = true ∨ d = .stack ∧ path = none) :
    ExprEnds d printOnly text definitions
      (runExpr d printOnly text (loadBindings d opener path definitions)) := by
  cases hparse : d.parse text with
  | error e =>
    rw [runExpr, hparse]
    exact .rejected hparse
  | ok t =>
    cases printOnly with
    | true =>
      obtain ⟨s, hprint⟩ := exists_print_of_parse hparse
      rw [runExpr_print hparse hprint]
      exact .printed rfl hparse hprint
    | false =>
      obtain ⟨rfl, rfl⟩ := hcase.resolve_left Bool.false_ne_true
      -- definitions are looked at only now that the text has been read
      rcases exists_assigns_or_refused definitions with
        ⟨ps, hps⟩ | ⟨before, definition, after, ps, rfl, hps, hrefused⟩
      · rw [runExpr_of_assigns hparse hps, evaluate_definedBindings]
        cases hv : t.eval (definedBindings ps) with
        | ok v => exact .evaluated rfl hparse hps hv
        | error err => exact .failed rfl hparse hps hv
      · rw [runExpr_of_refused hparse hps hrefused]
        cases definition with
        | none => exact .stranded rfl hparse rfl hps
        | some definition => exact .refused rfl hparse rfl hps hrefused

end Endings

/-- A run ends with a result on a line of its own. -/
def Succeeds (run : Except Crash Outcome) (result : String) : Prop :=
  run = .ok { exit := 0, out := result ++ "\n", err := "" }

/-- A run ends with an error message. -/
def Reports (run : Except Crash Outcome) (message : String) : Prop :=
  run = .ok { exit := 1, out := "", err := "Error: " ++ message ++ "\n" }

/-- An expression is to be evaluated, and the first definition that gives no value has no text. -/
def Stranded (d : Dialect) (printOnly : Bool) (text : String)
    (definitions : List (Option String)) : Prop :=
  printOnly = false ∧ (∃ t, d.parse text = .ok t) ∧
    ∃ before after ps, definitions = before ++ none :: after ∧ List.Forall₂ Assigns before ps

theorem Stranded.runExpr_eq {d : Dialect} {printOnly : Bool} {text : String} {path : Option String}
    {definitions : List (Option String)} (h : Stranded d printOnly text definitions)
    (hcase : printOnly = true ∨ d = .stack ∧ path = none) (opener : File.Opener) :
    runExpr d printOnly text (loadBindings d opener path definitions) =
      .error (.loading .noDefinition) := by
  obtain ⟨rfl, ⟨t, hparse⟩, before, after, ps, rfl, hps⟩ := h
  obtain ⟨rfl, rfl⟩ := hcase.resolve_left Bool.false_ne_true
  rw [runExpr_of_refused hparse hps (fun p hp => by cases hp)]
  rfl

theorem succeeds_line_iff {r s : String} : Succeeds (.ok (.line s)) r ↔ s = r := by
  constructor
  · intro h
    exact (String.append_left_inj "\n").1 (congrArg Outcome.out (Except.ok.inj h))
  · rintro rfl
    rfl

theorem not_succeeds_error (message r : String) : ¬ Succeeds (.ok (.error message)) r := by
  intro h
  cases congrArg Outcome.exit (Except.ok.inj h)

/-- A result is a printed expression or a value. -/
theorem ExprEnds.succeeds_cases {d : Dialect} {printOnly : Bool} {text r : String}
    {definitions : List (Option String)} {run : Except Crash Outcome}
    (h : ExprEnds d printOnly text definitions run) (hr : Succeeds run r) :
    (printOnly = true ∧ ∃ t, d.parse text = .ok t ∧ d.print t = .ok r) ∨
      (printOnly = false ∧ ∃ t ps v, d.parse text = .ok t ∧ List.Forall₂ Assigns definitions ps ∧
        t.eval (definedBindings ps) = .ok v ∧ shownValue v = r) := by
  cases h with
  | rejected hparse => exact absurd hr (not_succeeds_error _ r)
  | printed honly hparse hprint =>
    cases succeeds_line_iff.1 hr
    exact .inl ⟨honly, _, hparse, hprint⟩
  | refused heval hparse hsplit hbefore hrefused => exact absurd hr (not_succeeds_error _ r)
  | stranded heval hparse hsplit hbefore => cases hr
  | failed heval hparse hps herr => exact absurd hr (not_succeeds_error _ r)
  | evaluated heval hparse hps hv =>
    exact .inr ⟨heval, _, _, _, hparse, hps, hv, succeeds_line_iff.1 hr⟩

theorem ExprEnds.result_or_message {d : Dialect} {printOnly : Bool} {text : String}
    {definitions : List (Option String)} {run : Except Crash Outcome}
    (h : ExprEnds d printOnly text definitions run)
    (hclean : ¬ Stranded d printOnly text definitions) :
    (∃ r, Succeeds run r) ∨ ∃ m, Reports run m := by
  cases h with
  | rejected hparse => exact .inr ⟨_, rfl⟩
  | printed honly hparse hprint => exact .inl ⟨_, rfl⟩
  | refused heval hparse hsplit hbefore hrefused => exact .inr ⟨_, rfl⟩
  | stranded heval hparse hsplit hbefore =>
    exact absurd ⟨heval, ⟨_, hparse⟩, _, _, _, hsplit, hbefore⟩ hclean
  | failed heval hparse hps herr => exact .inr ⟨_, rfl⟩
  | evaluated heval hparse hps hv => exact .inl ⟨_, rfl⟩

section Laws

variable {d : Dialect} {text r : String} {opener : File.Opener} {path : Option String}
  {definitions : List (Option String)}

theorem succeeds_print_iff :
    Succeeds (runExpr d true text (loadBindings d opener path definitions)) r ↔
      ∃ t, d.parse text = .ok t ∧ d.print t = .ok r := by
  constructor
  · intro hr
    obtain ⟨-, h⟩ | ⟨h, -⟩ := (exprEnds_runExpr (.inl rfl)).succeeds_cases hr
    · exact h
    · cases h
  · rintro ⟨t, hparse, hprint⟩
    rw [runExpr_print hparse hprint]
    rfl

theorem exists_succeeds_print_iff :
    (∃ r, Succeeds (runExpr d true text (loadBindings d opener path definitions)) r) ↔
      ∃ t, d.parse text = .ok t := by
  constructor
  · rintro ⟨r, hr⟩
    obtain ⟨t, hparse, -⟩ := succeeds_print_iff.1 hr
    exact ⟨t, hparse⟩
  · rintro ⟨t, hparse⟩
    obtain ⟨s, hprint⟩ := exists_print_of_parse hparse
    exact ⟨s, succeeds_print_iff.2 ⟨t, hparse, hprint⟩⟩

theorem succeeds_eval_iff :
    Succeeds (runExpr .stack false text (loadBindings .stack opener none definitions)) r ↔
      ∃ t ps v, Dialect.stack.parse text = .ok t ∧ List.Forall₂ Assigns definitions ps ∧
        t.eval (definedBindings ps) = .ok v ∧ shownValue v = r := by
  constructor
  · intro hr
    obtain ⟨h, -⟩ | ⟨-, h⟩ := (exprEnds_runExpr (.inr ⟨rfl, rfl⟩)).succeeds_cases hr
    · cases h
    · exact h
  · rintro ⟨t, ps, v, hparse, hps, hv, rfl⟩
    rw [runExpr_of_assigns hparse hps, evaluate_definedBindings, hv]
    rfl

end Laws

/-- **The command on an expression ends with a result or with an error message, unless a definition
without a text stops it.** It prints whatever it can read, and in the stack syntax it evaluates what
it can read if all definitions have the form `NAME=VALUE` and the expression has a value over them,
where the last definition of a name counts. -/
theorem expr_ends_with_result_or_message (opener : File.Opener) (arguments : List String)
    (d : Dialect) (printOnly : Bool) (text : String) (path : Option String)
    (definitions : List (Option String))
    (haccepted : Request.ofArguments arguments = .ok (.expr d printOnly text path definitions))
    (hcase : printOnly = true ∨ d = .stack ∧ path = none) :
    (((∃ r, Succeeds (run opener arguments) r) ∨ ∃ m, Reports (run opener arguments) m) ↔
      ¬ Stranded d printOnly text definitions) ∧
    (Stranded d printOnly text definitions →
      run opener arguments = .error (.loading .noDefinition)) ∧
    (printOnly = true →
      ((∃ r, Succeeds (run opener arguments) r) ↔ ∃ t, d.parse text = .ok t) ∧
      ∀ r, Succeeds (run opener arguments) r ↔ ∃ t, d.parse text = .ok t ∧ d.print t = .ok r) ∧
    (printOnly = false → ∀ r, Succeeds (run opener arguments) r ↔
      ∃ t ps v, d.parse text = .ok t ∧ List.Forall₂ Assigns definitions ps ∧
        t.eval (definedBindings ps) = .ok v ∧ shownValue v = r) := by
  have hrun : run opener arguments =
      runExpr d printOnly text (loadBindings d opener path definitions) := by
    rw [run, haccepted]
    rfl
  have hstranded : Stranded d printOnly text definitions →
      run opener arguments = .error (.loading .noDefinition) :=
    fun h => hrun.trans (h.runExpr_eq hcase opener)
  refine ⟨⟨?_, fun hclean => ?_⟩, hstranded, ?_, ?_⟩
  · rintro (⟨r, hr⟩ | ⟨m, hm⟩) h
    · cases (hstranded h).symm.trans hr
    · cases (hstranded h).symm.trans hm
  · rw [hrun]
    exact (exprEnds_runExpr hcase).result_or_message hclean
  · rintro rfl
    rw [hrun]
    exact ⟨exists_succeeds_print_iff, fun r => succeeds_print_iff⟩
  · rintro rfl r
    obtain ⟨rfl, rfl⟩ := hcase.resolve_left Bool.false_ne_true
    rw [hrun]
    exact succeeds_eval_iff

/-- Two definitions of one name, the second with an equals sign in its value, and a text to print
beside a definition that is never looked at. -/
theorem last_definition_and_printed_text :
    Succeeds (run (fun _ => .error .missing) ["expr", "$a == 'x=y'", "-D", "a=z", "-Da=x=y"]) "true" ∧
      ∃ r, Succeeds (run (fun _ => .error .missing) ["expr", "--print", "!( $a )", "-D--"]) r := by
  constructor
  · obtain ⟨-, -, -, heval⟩ := expr_ends_with_result_or_message (fun _ => .error .missing)
      ["expr", "$a == 'x=y'", "-D", "a=z", "-Da=x=y"] .stack false "$a == 'x=y'" none
      [some "a=z", some "a=x=y"] (by decide +kernel) (.inr ⟨rfl, rfl⟩)
    have hps : List.Forall₂ Assigns [some "a=z", some "a=x=y"] [("a", "z"), ("a", "x=y")] :=
      .cons (splitDefinition?_eq_some_iff.1 (by decide +kernel))
        (.cons (splitDefinition?_eq_some_iff.1 (by decide +kernel)) .nil)
    have hparse : Dialect.stack.parse "$a == 'x=y'" =
        .ok (.comparison .equal (.leaf (.reference "a")) (.leaf (.literal "x=y"))) := by decide +kernel
    have hvalue : (Expr.comparison .equal (.leaf (.reference "a")) (.leaf (.literal "x=y"))).eval
        [("a", .plain (.text "x=y")), ("a", .plain (.text "z"))] = .ok (.truth true) := by cbv
    exact (heval rfl "true").2 ⟨_, _, .truth true, hparse, hps, hvalue, rfl⟩
  · obtain ⟨-, -, hprint, -⟩ := expr_ends_with_result_or_message (fun _ => .error .missing)
      ["expr", "--print", "!( $a )", "-D--"] .stack true "!( $a )" none [none]
      (by decide +kernel) (.inl rfl)
    exact (hprint rfl).1.2 ⟨.not (.leaf (.reference "a")), by decide +kernel⟩

/-- The value `--` is taken for a separator and leaves a definition without a text. -/
theorem textless_definition_stops_run :
    Request.ofArguments ["expr", "'x'", "-D--"] = .ok (.expr .stack false "'x'" none [none]) ∧
      run (fun _ => .error .missing) ["expr", "'x'", "-D--"] = .error (.loading .noDefinition) :=
  ⟨by decide +kernel, by decide +kernel⟩

end Scaffold.Command
