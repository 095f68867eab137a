import RomanCalc.Proofs.Ledger

/-!
# A ledger in use

A ledger is asked for one thing after the other: to record an entry, to hand its entries out, to
tell the last of them or how many there are, to forget them all. The lists that it handed out belong
to those who asked for them, who may change them. Each request leaves in the ledger the last of the
entries recorded since it was cleared (`keeps_after`), so any row of requests does (`keeps_foldl`),
and the answers are told from these entries (`answers_from_recent`).
-/

namespace RomanCalc.Ledger

/-- What can be asked of a ledger and done with the lists that it handed out. -/
inductive Request
  | record (entry : Entry)
  | entries
  /-- One of the lists that were handed out, counted from zero, gets other items. -/
  | change (copy : Nat) (items : List Entry)
  | last
  | size
  | clear

/-- What is answered. -/
inductive Answer
  | done
  | entries (items : List Entry)
  | last (entry : Option Entry)
  | size (count : Nat)

namespace Request

/-- The entry that is recorded. -/
def entry? : Request → Option Entry
  | record entry => some entry
  | _ => none

/-- Whether the ledger is cleared. -/
def isClear : Request → Bool
  | clear => true
  | _ => false

/-- What is answered where the ledger is known to hold so many entries. -/
def answer (held : List Entry) : Request → Answer
  | entries => .entries held
  | last => .last held.getLast?
  | size => .size held.length
  | record _ | change .. | clear => .done

end Request

/-- A ledger with the lists that it handed out. -/
structure Desk where
  ledger : Ledger
  copies : List (List Entry)

namespace Desk

/-- The answer to a request. -/
def answer (desk : Desk) : Request → Answer
  | .entries => .entries desk.ledger.toList
  | .last => .last desk.ledger.last?
  | .size => .size desk.ledger.size
  | .record _ | .change .. | .clear => .done

/-- What a request leaves behind. -/
def after (desk : Desk) : Request → Desk
  | .record entry => { desk with ledger := desk.ledger.record entry }
  | .entries => { desk with copies := desk.copies ++ [desk.ledger.toList] }
  | .change copy items => { desk with copies := desk.copies.set copy items }
  | .clear => { desk with ledger := desk.ledger.clear }
  | .last | .size => desk

end Desk

/-- The entries recorded since the ledger was cleared. -/
def sinceClear (requests : List Request) : List Entry :=
  (requests.rtakeWhile fun request => !request.isClear).filterMap Request.entry?

theorem sinceClear_concat (requests : List Request) (request : Request) :
    sinceClear (requests ++ [request]) =
      if request.isClear then [] else sinceClear requests ++ request.entry?.toList := by
  unfold sinceClear
  by_cases hclear : request.isClear = true
  · rw [List.rtakeWhile_concat_neg _ _ _ (by simp [hclear]), if_pos hclear]
    rfl
  · rw [List.rtakeWhile_concat_pos _ _ _ (by simp [hclear]), if_neg hclear, List.filterMap_append]
    cases h : request.entry? <;> simp [h]

/-! ## The last entries as a part of all -/

section

variable {α : Type}

theorem recent_suffix (limit : Int) (items : List α) : recent limit items <:+ items := by
  unfold recent
  split
  · exact List.suffix_refl items
  · exact List.drop_suffix _ _

theorem length_recent (limit : Int) (items : List α) :
    (recent limit items).length =
      if limit = 0 then items.length else min limit.toNat items.length := by
  unfold recent
  split
  · rfl
  · rw [List.rtake, List.length_drop]
    omega

end

/-! ## Rows of requests -/

variable {start : Ledger} {desk : Desk} {earlier : List Request}

/-- After some requests, a ledger holds the last of the entries since it was cleared, as many as
the limit allows that it started with. -/
structure Desk.Keeps (start : Ledger) (requests : List Request) (desk : Desk) : Prop where
  limit : desk.ledger.limit = start.limit
  entries : desk.ledger.toList = lastOf start.limit (sinceClear requests)

/-- One request more. -/
theorem keeps_after (h : desk.Keeps start earlier) (request : Request) :
    (desk.after request).Keeps start (earlier ++ [request]) := by
  -- what records nothing and does not clear leaves the ledger and its entries as they are
  have keeps_ledger : ∀ desk' : Desk, desk'.ledger = desk.ledger → request.isClear = false →
      request.entry? = none → desk'.Keeps start (earlier ++ [request]) := by
    intro desk' hledger hclear hentry
    refine ⟨by rw [hledger, h.limit], ?_⟩
    rw [hledger, sinceClear_concat, hclear, hentry]
    simpa using h.entries
  cases request with
  | record entry =>
    refine ⟨h.limit, ?_⟩
    change (desk.ledger.record entry).toList = _
    rw [sinceClear_concat, toList_record, h.limit, h.entries, lastOf_concat]
    rfl
  | clear =>
    refine ⟨h.limit, ?_⟩
    rw [sinceClear_concat]
    exact (lastOf_nil _).symm
  | entries => exact keeps_ledger _ rfl rfl rfl
  | change copy items => exact keeps_ledger _ rfl rfl rfl
  | last => exact keeps_ledger _ rfl rfl rfl
  | size => exact keeps_ledger _ rfl rfl rfl

/-- Any row of requests more. -/
theorem keeps_foldl (h : desk.Keeps start earlier) (requests : List Request) :
    (requests.foldl Desk.after desk).Keeps start (earlier ++ requests) := by
  induction requests generalizing desk earlier with
  | nil => simpa using h
  | cons request requests ih =>
    have hrest := ih (keeps_after h request)
    rwa [List.append_assoc, List.singleton_append] at hrest

theorem answer_eq (desk : Desk) (request : Request) :
    desk.answer request = request.answer desk.ledger.toList := by
  cases request <;> rfl

/-- Only records and clears change the ledger. -/
theorem ledger_after {request : Request} (hclear : request.isClear = false)
    (hentry : request.entry? = none) : (desk.after request).ledger = desk.ledger := by
  cases request with
  | record entry => cases hentry
  | clear => cases hclear
  | _ => rfl

/-- A ledger whose limit is not below zero and can be counted holds the last entries recorded since
it was cleared, as many as its limit allows, or all of them where that is zero. Whatever was asked
of it before, and whatever was done with the lists that it handed out, it answers from these
entries, and only a record or a clear changes them. -/
theorem answers_from_recent {limit : Int} (hlimit : 0 ≤ limit) :
    match empty limit with
    | .error error => error = .tooLarge ∧ (countable : Int) < limit
    | .ok ledger => ∀ requests : List Request,
      let desk := requests.foldl Desk.after ⟨ledger, []⟩
      let recorded := sinceClear requests
      desk.ledger.toList <:+ recorded ∧
        desk.ledger.toList.length =
          (if limit = 0 then recorded.length else min limit.toNat recorded.length) ∧
        (∀ request, desk.answer request = request.answer desk.ledger.toList) ∧
        ∀ request, request.isClear = false → request.entry? = none →
          (desk.after request).ledger = desk.ledger := by
  cases hempty : empty limit with
  | error error => exact empty_eq_error hlimit hempty
  | ok ledger =>
    obtain ⟨hnone, hrecent⟩ := empty_eq_ok hempty
    intro requests
    have hstart : Desk.Keeps ledger [] ⟨ledger, []⟩ := ⟨rfl, hnone.trans (lastOf_nil _).symm⟩
    have hkeeps := keeps_foldl hstart requests
    have hentries : (requests.foldl Desk.after ⟨ledger, []⟩).ledger.toList =
        recent limit (sinceClear requests) := by
      rw [hkeeps.entries, hrecent, List.nil_append]
    refine ⟨?_, ?_, answer_eq _, fun request => ledger_after⟩
    · rw [hentries]
      exact recent_suffix limit _
    · rw [hentries]
      exact length_recent limit _

/-- A full ledger is cleared and filled again; the list that it handed out in between is emptied. -/
theorem answers_from_recent_refilled :
    let entry := fun n : Int => Entry.ofOperands (.integer n) (some ['+']) (.integer 1)
      (.integer (n + 1))
    let desk := [Request.record (entry 1), .record (entry 2), .clear, .record (entry 3), .entries,
      .change 0 [], .record (entry 4), .record (entry 5)].foldl Desk.after ⟨⟨some 2, []⟩, []⟩
    (0 : Int) ≤ 2 ∧ empty 2 = .ok ⟨some 2, []⟩ ∧
      desk.ledger.toList <:+ [entry 3, entry 4, entry 5] ∧
      desk.answer .size = .size 2 ∧ desk.answer .last = .last (some (entry 5)) ∧
      (desk.after .entries).ledger = desk.ledger := by
  intro entry desk
  obtain ⟨hsuffix, hlength, hanswer, hsame⟩ := @answers_from_recent 2 (by decide)
    [.record (entry 1), .record (entry 2), .clear, .record (entry 3), .entries, .change 0 [],
      .record (entry 4), .record (entry 5)]
  refine ⟨by decide, rfl, hsuffix, ?_, hanswer .last, hsame .entries rfl rfl⟩
  exact (hanswer .size).trans (congrArg Answer.size hlength)

end RomanCalc.Ledger
