import RomanCalc.Proofs.CommandLine.Line
import RomanCalc.Proofs.CommandLine.Printing
import RomanCalc.Proofs.Expression.Attempt
import RomanCalc.Proofs.Expression.SingleOperation
import RomanCalc.Proofs.Ledger

/-!
# The history of a session

At every point of a session the ledger holds the last calculations since it was cleared, one entry
for each (`Session.Holds`), and an entry with an operator tells the value of its own operation
(`Entry.Records`). One reply keeps this (`holds_reply`), and so do all replies of a session
(`holds_replies`).
-/

namespace RomanCalc

open Expression (Strategy)

/-- A resolved text with its value. -/
structure Calculation where
  text : List Char
  value : Float

/-- How an entry tells a calculation: as the operation that its text is split into, whose value is
that of the calculation, or as a text that is not split. -/
def Entry.Records (limit : Int) (calculation : Calculation) (entry : Entry) : Prop :=
  match Expression.split? limit (.text calculation.text) with
  | some parts =>
    entry = ⟨[.real parts.left, .real parts.right], some parts.symbol, .real calculation.value⟩ ∧
      Expression.apply parts.left parts.symbol parts.right = .ok calculation.value
  | none => entry = ⟨[.text calculation.text], none, .real calculation.value⟩

namespace CommandLine

/-- Whether a request clears the history. -/
def Request.isClear : Request → Bool
  | .clear => true
  | _ => false

/-- Whether a request leaves the session. -/
def Request.isLeave : Request → Bool
  | .leave => true
  | _ => false

/-- The calculation of a line, where the line is an expression and all went well. -/
def Session.calculated? (session : Session) (raw : List Char) : Option Calculation :=
  match Request.ofLine raw with
  | .expression line =>
    match evaluateLine session.settings line session.strategy with
    | (resolved, .ok evaluation) =>
      if evaluation.record.ok then evaluation.record.value.map (Calculation.mk resolved) else none
    | (_, .error _) => none
  | _ => none

/-- The calculations of lines since the history was cleared. -/
def Session.calculations (session : Session) (lines : List (List Char)) : List Calculation :=
  (lines.rtakeWhile fun line => !(Request.ofLine line).isClear).filterMap session.calculated?

/-- The ledger holds an entry for each of the last calculations of the lines. -/
def Session.Holds (session : Session) (limit : Int) (lines : List (List Char))
    (ledger : Ledger) : Prop :=
  List.Forall₂ (Entry.Records session.settings.maxInputLength)
    (Ledger.recent limit (session.calculations lines)) ledger.toList

/-! ## Entries -/

/-- Only basic digits are left in a text that has a value by precedence. -/
theorem basicDigits_of_evaluate {limit : Int} {text : List Char} {value : Float}
    (h : Strategy.precedence.evaluate limit (.text text) = .ok value) :
    Expression.BasicDigits text := by
  intro c hc hdigit
  have haccepts := Expression.accepts_of_evaluate h c hc (Text.isBlank_of_isDecimalDigit hdigit)
  have hop := Expression.isOperatorChar_of_isDecimalDigit hdigit
  have hpoint : c ≠ '.' := by
    rintro rfl
    exact absurd hdigit (by decide)
  simpa [Strategy.accepts, hop, hpoint, Strategy.isDigit] using haccepts

/-- However a text got its value, its entry tells the operation that it is split into. -/
theorem records_entryOf {strategy : Strategy} {limit : Int} {calculation : Calculation}
    (h : strategy.evaluate limit (.text calculation.text) = .ok calculation.value) :
    Entry.Records limit calculation (entryOf limit calculation.text calculation.value) := by
  unfold Entry.Records entryOf
  cases hsplit : Expression.split limit (.text calculation.text) with
  | error fault =>
    have hnone : Expression.split? limit (.text calculation.text) = none := by
      rw [Expression.split?_eq, hsplit]
      rfl
    rw [hnone]
    rfl
  | ok parts =>
    have hsome : Expression.split? limit (.text calculation.text) = some parts := by
      rw [Expression.split?_eq, hsplit]
      rfl
    have hbinary : Strategy.binary.evaluate limit (.text calculation.text) =
        .ok calculation.value := by
      cases strategy with
      | precedence =>
        rw [← Expression.evaluate_of_split (basicDigits_of_evaluate h) hsplit]
        exact h
      | binary => exact h
    obtain ⟨found, hfound, hvalue⟩ := Expression.bind_eq_ok_iff.mp hbinary
    rw [hsplit] at hfound
    cases hfound
    rw [hsome]
    exact ⟨rfl, hvalue⟩

theorem line_of_records {limit : Int} {calculation : Calculation} {entry : Entry}
    (h : entry.Records limit calculation) (number : Nat) : ∃ line, entry.line number = .ok line := by
  unfold Entry.Records at h
  split at h
  · obtain ⟨rfl, -⟩ := h
    exact ⟨_, rfl⟩
  · subst h
    exact ⟨_, rfl⟩

/-- Entries of calculations can be shown. -/
theorem entryLines_of_records {limit : Int} {calculations : List Calculation}
    {entries : List Entry} (h : List.Forall₂ (Entry.Records limit) calculations entries)
    (number : Nat) : ∃ lines, entryLines number entries = .ok lines := by
  induction h generalizing number with
  | nil => exact ⟨[], rfl⟩
  | @cons calculation entry calculations entries hentry hentries ih =>
    obtain ⟨line, hline⟩ := line_of_records hentry number
    obtain ⟨lines, hlines⟩ := ih (number + 1)
    refine ⟨line :: lines, ?_⟩
    rw [entryLines, hline, hlines]
    rfl

/-! ## One reply -/

variable {session : Session}

theorem evaluate_of_calculated? {raw : List Char} {calculation : Calculation}
    (h : session.calculated? raw = some calculation) :
    ∃ strategy : Strategy, strategy.evaluate session.settings.maxInputLength
      (.text calculation.text) = .ok calculation.value := by
  unfold Session.calculated? at h
  split at h
  · split at h
    · rename_i evaluation hline
      split at h
      · obtain ⟨value, hvalue, rfl⟩ := Option.map_eq_some_iff.mp h
        obtain ⟨rfl, hevaluation⟩ := Prod.mk.inj hline
        cases hstrategy : Strategy.choose session.settings session.strategy with
        | error failure =>
          rw [evaluate, hstrategy] at hevaluation
          cases hevaluation
        | ok strategy =>
          rw [evaluate_of_choose hstrategy] at hevaluation
          cases hevaluation
          exact ⟨strategy, evaluate_of_value_record hvalue⟩
      · cases h
    · cases h
  · cases h

/-- An expression is answered without leaving the session, and its calculation is recorded. -/
theorem exists_answer (session : Session) {raw line : List Char}
    (hraw : Request.ofLine raw = .expression line) (ledger : Ledger) :
    ∃ printout notes,
      session.answer ledger line = ⟨printout, notes,
        match session.calculated? raw with
        | some calculation => ledger.record
            (entryOf session.settings.maxInputLength calculation.text calculation.value)
        | none => ledger, false⟩ ∧
      (session.encoding = .universal → printout.stopped = none) := by
  have hexpression : ∀ evaluation,
      (evaluateLine session.settings line session.strategy).2 = .ok evaluation →
      ∃ text, evaluation.expression.json 1 = .ok text := by
    intro evaluation h
    rw [expression_of_evaluate h]
    exact ⟨_, rfl⟩
  unfold Session.answer Session.calculated?
  rw [hraw]
  simp only
  generalize evaluateLine session.settings line session.strategy = evaluated at hexpression ⊢
  obtain ⟨resolved, result⟩ := evaluated
  cases result with
  | error failure =>
    refine ⟨_, _, rfl, fun hterminal => ?_⟩
    rw [hterminal]
    exact Encoding.stopped_printLine _
  | ok evaluation =>
    have hprinted : session.encoding = .universal →
        (printEvaluation session.encoding session.format evaluation).stopped = none := by
      intro hterminal
      rw [hterminal]
      exact stopped_printEvaluation session.format (hexpression evaluation rfl)
    obtain ⟨expression, outcome⟩ := evaluation
    cases outcome with
    | written value numeral fraction => exact ⟨_, _, rfl, hprinted⟩
    | unwritable value fault => exact ⟨_, _, rfl, hprinted⟩
    | rejected fault => exact ⟨_, _, rfl, hprinted⟩

/-- A reply records the calculation of its line, and forgets all on request. -/
theorem ledger_reply (session : Session) (ledger : Ledger) (raw : List Char) :
    (session.reply ledger raw).ledger =
      match session.calculated? raw with
      | some calculation =>
        ledger.record (entryOf session.settings.maxInputLength calculation.text calculation.value)
      | none => if (Request.ofLine raw).isClear then ledger.clear else ledger := by
  cases hraw : Request.ofLine raw with
  | expression line =>
    obtain ⟨printout, notes, hanswer, -⟩ := exists_answer session hraw ledger
    rw [Session.reply, hraw]
    simp only
    rw [hanswer]
    rfl
  | _ =>
    unfold Session.reply Session.calculated?
    rw [hraw]
    rfl

/-- Lines that clear the history calculate nothing. -/
theorem calculated?_of_isClear {raw : List Char} (h : (Request.ofLine raw).isClear = true) :
    session.calculated? raw = none := by
  unfold Session.calculated?
  cases hraw : Request.ofLine raw with
  | expression line =>
    rw [hraw] at h
    cases h
  | _ => rfl

theorem calculations_concat (session : Session) (lines : List (List Char)) (raw : List Char) :
    session.calculations (lines ++ [raw]) =
      if (Request.ofLine raw).isClear then []
      else session.calculations lines ++ (session.calculated? raw).toList := by
  unfold Session.calculations
  by_cases hclear : (Request.ofLine raw).isClear = true
  · rw [List.rtakeWhile_concat_neg _ _ _ (by simp [hclear]), if_pos hclear]
    rfl
  · rw [List.rtakeWhile_concat_pos _ _ _ (by simp [hclear]), if_neg hclear, List.filterMap_append]
    cases h : session.calculated? raw <;> simp [h]

/-- What holds of the ledger of a session, whatever its limit is: its entries tell the last
calculations, and its limit is the one that it started with. -/
structure Session.Keeps (session : Session) (start : Ledger) (lines : List (List Char))
    (ledger : Ledger) : Prop where
  limit : ledger.limit = start.limit
  entries : List.Forall₂ (Entry.Records session.settings.maxInputLength)
    (Ledger.lastOf start.limit (session.calculations lines)) ledger.toList

/-- A reply keeps the last calculations in the ledger. -/
theorem keeps_reply {start ledger : Ledger} {lines : List (List Char)}
    (h : session.Keeps start lines ledger) (raw : List Char) :
    session.Keeps start (lines ++ [raw]) (session.reply ledger raw).ledger := by
  rw [ledger_reply]
  cases hcalculated : session.calculated? raw with
  | some calculation =>
    have hclear : ¬(Request.ofLine raw).isClear = true := by
      intro hclear
      rw [calculated?_of_isClear hclear] at hcalculated
      cases hcalculated
    obtain ⟨strategy, hvalue⟩ := evaluate_of_calculated? hcalculated
    refine ⟨h.limit, ?_⟩
    rw [calculations_concat, if_neg hclear, hcalculated, Ledger.toList_record, h.limit,
      Option.toList_some, ← Ledger.lastOf_concat]
    apply Ledger.forall₂_lastOf
    exact List.rel_append h.entries (.cons (records_entryOf hvalue) .nil)
  | none =>
    by_cases hclear : (Request.ofLine raw).isClear = true
    · rw [if_pos hclear]
      refine ⟨h.limit, ?_⟩
      rw [calculations_concat, if_pos hclear, Ledger.toList_clear, Ledger.lastOf_nil]
      exact .nil
    · rw [if_neg hclear]
      refine ⟨h.limit, ?_⟩
      rw [calculations_concat, if_neg hclear, hcalculated, Option.toList_none, List.append_nil]
      exact h.entries

/-! ## All replies -/

theorem exists_lines {start ledger : Ledger} {lines : List (List Char)}
    (h : session.Keeps start lines ledger) : ∃ shown, ledger.lines = .ok shown := by
  unfold Ledger.lines
  by_cases hempty : ledger.toList.isEmpty = true
  · rw [if_pos hempty]
    exact ⟨_, rfl⟩
  · rw [if_neg hempty]
    exact entryLines_of_records h.entries 1

/-- On a terminal that shows all characters, only a request to leave ends a session. -/
theorem ends_reply {start ledger : Ledger} {lines : List (List Char)}
    (hterminal : session.encoding = .universal) (h : session.Keeps start lines ledger)
    (raw : List Char) : (session.reply ledger raw).ends = (Request.ofLine raw).isLeave := by
  unfold Reply.ends Session.reply
  cases hraw : Request.ofLine raw with
  | nothing => rfl
  | leave => rfl
  | clear => rfl
  | help => simp [Session.printing, hterminal, Encoding.stopped_printLine, Request.isLeave]
  | keys text => simp [Session.printing, hterminal, Encoding.stopped_printLines, Request.isLeave]
  | history =>
    obtain ⟨shown, hshown⟩ := exists_lines h
    simp [Session.printing, Session.printLedger, hshown, hterminal, Encoding.stopped_printLines,
      Request.isLeave]
  | expression line =>
    obtain ⟨printout, notes, hanswer, hprinted⟩ := exists_answer session hraw ledger
    simp only
    rw [hanswer, hprinted hterminal]
    rfl

/-- Every reply of a session leaves the last calculations in the ledger. -/
theorem keeps_replies {start ledger : Ledger} {earlier : List (List Char)}
    (h : session.Keeps start earlier ledger) {lines : List (List Char)} {n : Nat} {reply : Reply}
    (hreply : (session.replies ledger lines)[n]? = some reply) :
    session.Keeps start (earlier ++ lines.take (n + 1)) reply.ledger := by
  induction lines generalizing ledger earlier n with
  | nil => cases hreply
  | cons line lines ih =>
    have hstep := keeps_reply h line
    rw [Session.replies] at hreply
    cases n with
    | zero =>
      have hfirst : session.reply ledger line = reply := by
        split at hreply <;> exact Option.some.inj hreply
      rw [← hfirst]
      simpa using hstep
    | succ n =>
      split at hreply
      · cases hreply
      · have hrest := ih hstep hreply
        rwa [List.append_assoc, List.singleton_append] at hrest

/-- Every line before which the session is not left has a reply. -/
theorem exists_reply {start ledger : Ledger} {earlier : List (List Char)}
    (hterminal : session.encoding = .universal) (h : session.Keeps start earlier ledger)
    {lines : List (List Char)} {n : Nat} (hn : n < lines.length)
    (hstay : ∀ line ∈ lines.take n, (Request.ofLine line).isLeave = false) :
    ∃ reply, (session.replies ledger lines)[n]? = some reply := by
  induction lines generalizing ledger earlier n with
  | nil => cases hn
  | cons line lines ih =>
    rw [Session.replies]
    cases n with
    | zero =>
      refine ⟨session.reply ledger line, ?_⟩
      split <;> rfl
    | succ n =>
      rw [List.take_succ_cons, List.forall_mem_cons] at hstay
      have hgoesOn : (session.reply ledger line).ends = false := by
        rw [ends_reply hterminal h, hstay.1]
      obtain ⟨reply, hreply⟩ :=
        ih (keeps_reply h line) (Nat.lt_of_succ_lt_succ hn) hstay.2
      exact ⟨reply, by simpa [hgoesOn] using hreply⟩

/-- The history of a session: for every limit that is not below zero and not beyond what can be
counted, the ledger holds the last calculations since it was cleared, before the first line and
after every reply, and every line has a reply until the session is left. -/
theorem history_holds {limit : Int} (hlimit : 0 ≤ limit)
    (hterminal : session.encoding = .universal) :
    match Ledger.empty limit with
    | .error error => error = .tooLarge ∧ (Ledger.countable : Int) < limit
    | .ok ledger =>
      session.Holds limit [] ledger ∧ ∀ lines n,
        (∀ reply, (session.replies ledger lines)[n]? = some reply →
          session.Holds limit (lines.take (n + 1)) reply.ledger) ∧
        (n < lines.length → (∀ line ∈ lines.take n, (Request.ofLine line).isLeave = false) →
          ∃ reply, (session.replies ledger lines)[n]? = some reply) := by
  cases hempty : Ledger.empty limit with
  | error error => exact Ledger.empty_eq_error hlimit hempty
  | ok ledger =>
    obtain ⟨hnone, hrecent⟩ := Ledger.empty_eq_ok hempty
    have holds_of_keeps : ∀ {lines now}, session.Keeps ledger lines now →
        session.Holds limit lines now := by
      intro lines now h
      unfold Session.Holds
      rw [← hrecent]
      exact h.entries
    have hstart : session.Keeps ledger [] ledger := by
      refine ⟨rfl, ?_⟩
      rw [hnone]
      change List.Forall₂ _ (Ledger.lastOf ledger.limit []) []
      rw [Ledger.lastOf_nil]
      exact .nil
    refine ⟨holds_of_keeps hstart, fun lines n => ⟨fun reply hreply => ?_, ?_⟩⟩
    · exact holds_of_keeps (keeps_replies hstart hreply)
    · exact exists_reply hterminal hstart

theorem history_holds_cleared :
    ∃ reply,
      ((Session.mk .initial .universal .human none).replies ⟨some 2, []⟩
        ["x+iv".toList, "Clear".toList, "ii*iii".toList, "history".toList])[3]? = some reply ∧
      (Session.mk .initial .universal .human none).Holds 2
        ["x+iv".toList, "Clear".toList, "ii*iii".toList, "history".toList] reply.ledger := by
  obtain ⟨-, hlines⟩ :=
    @history_holds (Session.mk .initial .universal .human none) 2 (by decide) rfl
  obtain ⟨hholds, hexists⟩ :=
    hlines ["x+iv".toList, "Clear".toList, "ii*iii".toList, "history".toList] 3
  obtain ⟨reply, hreply⟩ := hexists (by decide) (by decide)
  exact ⟨reply, hreply, hholds reply hreply⟩

end CommandLine

end RomanCalc
