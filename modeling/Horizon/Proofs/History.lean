/-
  Horizon.Proofs.History
  ──────────────────────
  **WHAT A HISTORY SAYS LAST.**

  The entries of a history are operations, calls or writes.  Each says something about a part
  of the state or nothing at all, and what is said last is what the part is left with.
-/
namespace Horizon

variable {α β : Type}

/-- What the entries of a history say about one part of the state, last. -/
def last? (about : α → Option β) (history : List α) : Option β :=
  (history.filterMap about).getLast?

/-- What is said first counts if nothing is said behind it. -/
theorem last?_cons (about : α → Option β) (entry : α) (history : List α) :
    last? about (entry :: history) = (last? about history).or (about entry) := by
  unfold last?
  cases first : about entry with
  | none => rw [List.filterMap_cons_none first, Option.or_none]
  | some value =>
      rw [List.filterMap_cons_some first, List.getLast?_cons]
      cases (history.filterMap about).getLast? with
      | none => rfl
      | some later => rfl

/-- What is said last was said by an entry. -/
theorem exists_mem_of_last?_eq_some {about : α → Option β} {history : List α} {value : β}
    (last : last? about history = some value) : ∃ entry ∈ history, about entry = some value :=
  List.mem_filterMap.mp (List.mem_of_getLast? last)

end Horizon
