import Scaffold.Command.Run
import Scaffold.Proofs.Descriptor.Failures

/-!
# How the commands on a descriptor end

`read` and `check` report what is wrong with a descriptor and exit with 0 or 1. What else stops them
comes from outside the reader, from the file or the encoding that the document names, or is an order
with too many digits.
-/

namespace Scaffold.Descriptor.Feed

variable {limit : Option Int} {feed : Feed}

theorem read_eq (h : feed.failure = none) :
    feed.read limit = Descriptor.read limit feed.events := by
  rw [Feed.read, h]
  rfl

/-- A feed with a failure in place of all its events. -/
def broken (e : ReadFailure) : Feed := { events := [], failure := some e }

theorem read_broken (e : ReadFailure) : (broken e).read limit = .error e := rfl

theorem ofBytes_cases (bytes : List UInt8) :
    (ofBytes bytes).failure = none ∨ (∃ d, ofBytes bytes = broken (.document d)) ∨
      ∃ c, ofBytes bytes = broken (.charset c) := by
  unfold ofBytes
  split
  · exact .inl rfl
  · exact .inr (.inl ⟨_, rfl⟩)
  · exact .inr (.inr ⟨_, rfl⟩)

/-- A source gives its events, or it is broken by a read error, by the character set that it names,
or by the file that it is. -/
theorem ofSource_cases (opener : File.Opener) (source : Source) :
    (ofSource opener source).failure = none ∨
      (∃ d, ofSource opener source = broken (.document d)) ∨
      (∃ c, ofSource opener source = broken (.charset c)) ∨
      ∃ path e, ofSource opener source = broken (.unopened path e) := by
  have hsource : (∃ bytes, ofSource opener source = ofBytes bytes) ∨
      ∃ path e, ofSource opener source = broken (.unopened path e) := by
    cases source with
    | document text => exact .inl ⟨_, rfl⟩
    | path p =>
      cases hopen : opener p with
      | ok bytes => exact .inl ⟨bytes, by rw [ofSource, hopen]⟩
      | error e => exact .inr ⟨p, e, by rw [ofSource, hopen]; rfl⟩
  rcases hsource with ⟨bytes, h⟩ | h
  · rw [h]
    rcases ofBytes_cases bytes with h | h | h
    · exact .inl h
    · exact .inr (.inl h)
    · exact .inr (.inr (.inl h))
  · exact .inr (.inr (.inr h))

theorem ofSource_eq_broken {opener : File.Opener} {source : Source} {e : ReadFailure}
    (h : (ofSource opener source).failure = some e) : ofSource opener source = broken e := by
  rcases ofSource_cases opener source with hnone | ⟨_, hb⟩ | ⟨_, hb⟩ | ⟨_, _, hb⟩
  · cases hnone.symm.trans h
  all_goals
    rw [hb] at h ⊢
    cases h
    rfl

end Scaffold.Descriptor.Feed

namespace Scaffold.Command

open Descriptor
open Markup (Event Attributes)

variable {opener : File.Opener} {file : String} {go : Node → Outcome}

/-- An exit of a command that has said what is wrong, if anything is. -/
def Outcome.IsReport (o : Outcome) : Prop := o.exit = 0 ∨ o.exit = 1

theorem Outcome.isReport_error (text : String) : (Outcome.error text).IsReport := .inr rfl

theorem isReport_dump (format : Format) (n : Node) : (dump format n).IsReport := by
  cases format <;> exact .inl rfl

theorem isReport_report (n : Node) : (report n).IsReport := by
  unfold report
  split
  · exact .inl rfl
  · exact .inr rfl

/-- The file whose descriptor a request is about. -/
def Request.file? : Request → Option String
  | .read _ file => some file
  | .check file => some file
  | .expr .. | .nothing => none

/-- What stops a command on a descriptor without a report, and the part of the feed that does. -/
inductive Stops (feed : Feed) : ReadFailure → Prop
  | orderDigits {n : Nat} (h : Overflows none feed.events n) : Stops feed (.orderDigits n)
  | charset {e : Charset.Error} (h : feed.failure = some (.charset e)) : Stops feed (.charset e)
  | unopened {path : String} {e : File.Error} (h : feed.failure = some (.unopened path e))
    (hne : e ≠ .missing) : Stops feed (.unopened path e)

/-- A command on a descriptor ends with a report, or with what stops it. -/
theorem withDescriptor_cases (hgo : ∀ n, (go n).IsReport) :
    (∃ o, withDescriptor opener file go = .ok o ∧ o.IsReport) ∨
      ∃ e, Stops (.ofSource opener (.ofText file)) e := by
  unfold withDescriptor
  rcases Feed.ofSource_cases opener (.ofText file) with hnone | ⟨d, h⟩ | ⟨c, h⟩ | ⟨path, e, h⟩
  · rw [Feed.read_eq hnone]
    rcases read_cases none (Feed.ofSource opener (.ofText file)).events with
      ⟨root, hroot, -⟩ | ⟨e, he⟩ | ⟨n, hn⟩ | hdeep
    · exact .inl ⟨_, by rw [hroot], hgo root⟩
    · exact .inl ⟨_, by rw [he], Outcome.isReport_error _⟩
    · exact .inr ⟨_, .orderDigits hn⟩
    · exact absurd hdeep not_outgrows_none
  · rw [h, Feed.read_broken]
    exact .inl ⟨_, rfl, Outcome.isReport_error _⟩
  · rw [h]
    exact .inr ⟨_, .charset rfl⟩
  · by_cases he : e = .missing
    · subst he
      rw [h, Feed.read_broken]
      exact .inl ⟨_, rfl, Outcome.isReport_error _⟩
    · rw [h]
      exact .inr ⟨_, .unopened rfl he⟩

/-- What stops a command is what it ends with. -/
theorem withDescriptor_eq_error {e : ReadFailure}
    (h : Stops (.ofSource opener (.ofText file)) e) :
    withDescriptor opener file go = .error (.reading e) := by
  unfold withDescriptor
  cases h with
  | orderDigits h =>
    cases hfailure : (Feed.ofSource opener (.ofText file)).failure with
    | none => rw [Feed.read_eq hfailure, h.read_eq]
    | some e =>
      -- a feed that is broken has no events to come to such an order
      rw [Feed.ofSource_eq_broken hfailure] at h
      exact absurd rfl h.ne_nil
  | charset h => rw [Feed.ofSource_eq_broken h, Feed.read_broken]
  | @unopened path e h hne =>
    rw [Feed.ofSource_eq_broken h, Feed.read_broken]
    cases e <;> first | rfl | exact absurd rfl hne

theorem Request.exists_withDescriptor {request : Request} (h : request.file? = some file) :
    ∃ go : Node → Outcome, (∀ n, (go n).IsReport) ∧
      ∀ opener, request.run opener = withDescriptor opener file go := by
  cases request with
  | expr _ _ _ _ _ => cases h
  | nothing => cases h
  | read format f => cases h; exact ⟨_, isReport_dump format, fun _ => rfl⟩
  | check f => cases h; exact ⟨_, isReport_report, fun _ => rfl⟩

/-- **Only read errors stop a reading, but for numbers with too many digits.** Events come to a root
or to a read error exactly if they come to no order with too many digits, and to no element that is
deeper than a limit with too many digits; an order that is no number is refused as one. The commands on
a descriptor exit with 0 or 1 exactly if neither such an order stops them, nor the character set that
the document names, nor a file that is there but cannot be opened. -/
theorem only_read_errors_stop_reading (limit : Option Int) (events : List Event)
    (opener : File.Opener) (arguments : List String) :
    ((∃ root, read limit events = .ok root ∧ root.kind = .script) ∨
        (∃ e : ReadError, read limit events = .error (.document e)) ↔
      (∀ n, ¬ Overflows limit events n) ∧ ¬ Outgrows limit events) ∧
    (∀ n, Overflows limit events n → read limit events = .error (.orderDigits n)) ∧
    (Outgrows limit events → read limit events = .error .limitDigits) ∧
    (∀ before name attributes after st value,
      events = before ++ .start name attributes :: after →
      before.foldlM (ReaderState.step limit) {} = .ok st → st.TakesOrder limit name attributes →
      attribute? attributes Field.order.attributeName = some value →
      orderDigits? value.toList = none →
        read limit events =
          .error (.document (.invalidOrder value name (pathOf (name :: st.names))))) ∧
    ∀ request file, Request.ofArguments arguments = .ok request → request.file? = some file →
      ((∃ o, run opener arguments = .ok o ∧ (o.exit = 0 ∨ o.exit = 1)) ↔
        ∀ e, ¬ Stops (.ofSource opener (.ofText file)) e) ∧
      ∀ e, Stops (.ofSource opener (.ofText file)) e →
        run opener arguments = .error (.reading e) := by
  refine ⟨?_, fun n hn => hn.read_eq, fun hdeep => hdeep.read_eq, ?_, ?_⟩
  · constructor
    · rintro (⟨root, hread, -⟩ | ⟨e, hread⟩)
      · refine ⟨fun n hn => ?_, fun hdeep => ?_⟩
        · cases hn.read_eq.symm.trans hread
        · cases hdeep.read_eq.symm.trans hread
      · refine ⟨fun n hn => ?_, fun hdeep => ?_⟩
        · cases hn.read_eq.symm.trans hread
        · cases hdeep.read_eq.symm.trans hread
    · rintro ⟨hshort, hshallow⟩
      -- one of the four ways to end is the case, and two of them are excluded
      rcases read_cases limit events with hok | he | ⟨n, hn⟩ | hdeep
      · exact .inl hok
      · exact .inr he
      · exact absurd hn (hshort n)
      · exact absurd hdeep hshallow
  · rintro before name attributes after st value rfl hrun htakes hvalue hdigits
    exact read_eq_error_of_order hrun htakes hvalue (parseOrder_eq_invalidOrder hdigits)
  · intro request file hreq hfile
    obtain ⟨go, hgo, hrequest⟩ := Request.exists_withDescriptor hfile
    have hrun : run opener arguments = withDescriptor opener file go := by
      rw [run, hreq]
      exact hrequest opener
    rw [hrun]
    refine ⟨⟨?_, ?_⟩, fun e he => withDescriptor_eq_error he⟩
    · rintro ⟨o, ho, -⟩ e he
      cases (withDescriptor_eq_error he).symm.trans ho
    · intro hnone
      rcases withDescriptor_cases hgo with hreport | ⟨e, he⟩
      · exact hreport
      · exact absurd he (hnone e)

/-- The events of a document up to the entries of a model. -/
def beforeEntries : List Event :=
  [.start "archetype-script" [], .start "output" [], .start "model" []]

theorem exists_takesOrder (order : String) : ∃ st,
    beforeEntries.foldlM (ReaderState.step none) {} = .ok st ∧
      st.TakesOrder none "value" [("key", some "k"), ("order", some order)] ∧
      st.names = ["model", "output", "archetype-script"] :=
  ⟨_, rfl, ⟨_, _, ⟨⟨rfl, by decide⟩, rfl⟩, rfl, rfl, by decide⟩, rfl⟩

/-- The order `one`, and a check of a file that is not there. -/
theorem word_order_and_missing_file :
    read none (beforeEntries ++ [.start "value" [("key", some "k"), ("order", some "one")]]) =
        .error (.document (.invalidOrder "one" "value" "archetype-script/output/model/value")) ∧
      ∃ o, run (fun _ => .error .missing) ["check", "d.xml"] = .ok o ∧ (o.exit = 0 ∨ o.exit = 1) := by
  obtain ⟨-, -, -, horder, hrun⟩ := only_read_errors_stop_reading none
    (beforeEntries ++ [.start "value" [("key", some "k"), ("order", some "one")]])
    (fun _ => .error .missing) ["check", "d.xml"]
  constructor
  · obtain ⟨st, hst, htakes, hnames⟩ := exists_takesOrder "one"
    have h := horder beforeEntries "value" _ [] st "one" rfl hst htakes (by decide) (by decide)
    rw [hnames] at h
    exact h
  · refine (hrun (.check "d.xml") "d.xml" (by decide) rfl).1.2 fun e he => ?_
    cases he with
    | orderDigits h => exact absurd rfl h.ne_nil
    | charset h => cases h
    | unopened h hne => cases h; exact hne rfl

theorem orderDigits?_replicate (n : Nat) :
    orderDigits? (List.replicate (n + 1) '1') = some (false, List.replicate (n + 1) '1') := by
  have hall : (List.replicate (n + 1) '1').all Char.isDigit = true := by
    rw [List.all_eq_true]
    intro c hc
    rw [List.eq_of_mem_replicate hc]
    decide
  rw [List.replicate_succ] at hall ⊢
  show (if _ || !('1' :: List.replicate n '1').all Char.isDigit then _ else _) = _
  rw [hall]
  rfl

theorem overflows_of_digits {order : String} {negative : Bool} {digits : List Char}
    (hdigits : orderDigits? order.toList = some (negative, digits))
    (hlen : Number.maxDigits < digits.length) :
    Overflows none (beforeEntries ++ [.start "value" [("key", some "k"), ("order", some order)]])
      digits.length := by
  obtain ⟨st, hst, htakes, -⟩ := exists_takesOrder order
  refine ⟨beforeEntries, "value", _, [], st, rfl, hst, htakes, ?_, hlen⟩
  show (orderDigits? order.toList).map (·.2.length) = some digits.length
  rw [hdigits, Option.map_some]

/-- An order of 4301 digits stops the reading with no read error. -/
theorem long_order_stops_reading :
    read none (beforeEntries ++ [.start "value"
      [("key", some "k"), ("order", some (String.ofList (List.replicate 4301 '1')))]]) =
        .error (.orderDigits 4301) := by
  have hdigits : orderDigits? (String.ofList (List.replicate (4300 + 1) '1')).toList =
      some (false, List.replicate (4300 + 1) '1') := by
    rw [String.toList_ofList]
    exact orderDigits?_replicate 4300
  have hlen : Number.maxDigits < (List.replicate (4300 + 1) '1').length := by
    rw [List.length_replicate]
    decide
  have h := (overflows_of_digits hdigits hlen).read_eq
  rw [List.length_replicate] at h
  exact h

/-- Under a negative limit of 4301 digits the root itself stops the reading with no read error. -/
theorem long_limit_stops_reading :
    read (some (.negSucc (Number.leastBeyond Number.maxDigits))) [.start "archetype-script" []] =
      .error .limitDigits := by
  set limit : Int := .negSucc (Number.leastBeyond Number.maxDigits) with hlimit
  have hlong : (Number.integer limit).isWritable = false := by
    rw [Number.isWritable_eq_false_iff, hlimit, Int.natAbs_negSucc]
    exact Nat.le_succ _
  have hneg : limit < 0 := Int.negSucc_lt_zero _
  have hdeep : Outgrows (some limit) [.start "archetype-script" []] :=
    ⟨[], _, _, [], {}, rfl, rfl, _, _, ⟨rfl, fun _ => rfl⟩, rfl, by simp; omega, hlong⟩
  exact hdeep.read_eq

end Scaffold.Command
