/-! Lists that hold at most one record for a key.

`put` replaces the record with the same key where it stands, or adds a new one at the
end; `find?` looks a key up. -/
namespace Fulfilment.Keyed

variable {α κ : Type} [DecidableEq κ]

def find? (key : α → κ) (k : κ) (records : List α) : Option α :=
  List.find? (fun record => key record = k) records

def put (key : α → κ) (record : α) : List α → List α
  | [] => [record]
  | first :: rest => if key first = key record then record :: rest else first :: put key record rest

theorem find?_put_self (key : α → κ) (record : α) (records : List α) :
    find? key (key record) (put key record records) = some record := by
  induction records with
  | nil => simp [find?, put]
  | cons first rest ih =>
    by_cases same : key first = key record
    · simp [find?, put, same]
    · simpa [find?, put, same] using ih

theorem find?_put_of_ne (key : α → κ) (record : α) (k : κ) (other : key record ≠ k)
    (records : List α) : find? key k (put key record records) = find? key k records := by
  induction records with
  | nil => simp [find?, put, other]
  | cons first rest ih =>
    by_cases same : key first = key record
    · have different : key first ≠ k := same ▸ other
      simp [find?, put, same, other]
    · rw [put, if_neg same]
      by_cases found : key first = k
      · simp [find?, found]
      · simpa [find?, found] using ih

end Fulfilment.Keyed
