/-!
# Linearization of ancestors

A class inherits from several classes in one order, in which every class comes before its own
ancestors and the bases come in the order in which they were named. The order is found by merging
the orders of the bases with the list of the bases: the next class is the first head of a list that
stands behind no other class in any of them.

* **`candidate?`** — the next class of a merge.
* **`merge`** — the merged order, or the heads on which the merge got stuck.
-/

namespace DdsBridge.Linearization

variable {α : Type} [BEq α]

/-- The first head that stands behind nothing in any list. -/
def candidate? (lists : List (List α)) : Option α :=
  (lists.filterMap List.head?).find? fun c => lists.all fun list => !list.tail.contains c

/-- Takes a class away from the heads. -/
def advance (c : α) (lists : List (List α)) : List (List α) :=
  lists.map fun list => if list.head?.any (· == c) then list.tail else list

/-- Merges orders, at most `rounds` classes long. -/
def mergeRounds : (rounds : Nat) → List (List α) → Except (List α) (List α)
  | 0, _ => .ok []
  | rounds + 1, lists =>
    match lists.filterMap List.head? with
    | [] => .ok []
    | heads =>
      match candidate? lists with
      | none => .error heads.eraseDups
      | some c => (c :: ·) <$> mergeRounds rounds (advance c lists)

/-- Merges orders. Each round takes a class away, so the number of classes bounds the rounds. -/
def merge (lists : List (List α)) : Except (List α) (List α) :=
  mergeRounds lists.flatten.length lists

end DdsBridge.Linearization
