/-
LamcoRdp/Lib/Paging.lean

A list read page by page.

Each page begins at an offset and holds as many elements as there is room for,
each with a cookie, which is the offset behind it.  The reader asks for the next
page at the cookie of the last element, and stops at an empty page.  As long as
the list stays what it is and every page has room for one element, the reader
gets each element once and in order (`readAll_eq`).
-/
import Mathlib.Data.List.Basic

namespace Paging

variable {α : Type*}

/-- The elements from `offset` on that there is room for, with their cookies. -/
def page (entries : List α) (offset room : ℕ) : List (ℕ × α) :=
  ((entries.zipIdx.drop offset).take room).map fun p => (p.2 + 1, p.1)

/-- The reader, with the room on each page: what it got, and whether it came to an end. -/
def readAll (entries : List α) : ℕ → List ℕ → List α × Bool
  | _, [] => ([], false)
  | offset, room :: rooms =>
      match (page entries offset room).getLast? with
      | none => ([], true)
      | some (cookie, _) =>
          let (rest, ended) := readAll entries cookie rooms
          ((page entries offset room).map Prod.snd ++ rest, ended)

theorem map_snd_page (entries : List α) (offset room : ℕ) :
    (page entries offset room).map Prod.snd = (entries.drop offset).take room := by
  rw [page, List.map_map]
  show ((entries.zipIdx.drop offset).take room).map Prod.fst = _
  rw [List.map_take, List.map_drop, List.zipIdx_map_fst]

/-- An empty page is at the end, and any other leads on to what it leaves. -/
theorem getLast?_page (entries : List α) (offset : ℕ) {room : ℕ} (hroom : 1 ≤ room) :
    (entries.length ≤ offset ∧ (page entries offset room).getLast? = none) ∨
      ∃ cookie a, (page entries offset room).getLast? = some (cookie, a) ∧
        cookie = min (offset + room) entries.length ∧ offset < cookie := by
  rcases Nat.lt_or_ge offset entries.length with hlt | hge
  · right
    have hlen : ((entries.zipIdx.drop offset).take room).length =
        min room (entries.length - offset) := by
      rw [List.length_take, List.length_drop, List.length_zipIdx]
    have hlast : offset + (min room (entries.length - offset) - 1) < entries.length := by omega
    refine ⟨min (offset + room) entries.length,
      entries[offset + (min room (entries.length - offset) - 1)], ?_, rfl, by omega⟩
    rw [page, List.getLast?_map, List.getLast?_eq_getElem?, hlen, List.getElem?_take_of_lt (by omega),
      List.getElem?_drop, List.getElem?_zipIdx, List.getElem?_eq_getElem hlast]
    have hcookie : 0 + (offset + (min room (entries.length - offset) - 1)) + 1 =
        min (offset + room) entries.length := by omega
    show some (_ + 1, _) = some (_, _)
    rw [hcookie]
  · left
    refine ⟨hge, ?_⟩
    have hnone : entries.zipIdx.drop offset = [] :=
      List.drop_of_length_le (by rwa [List.length_zipIdx])
    rw [page, hnone, List.take_nil]
    rfl

/-- **The reader gets the rest of the list** when there is room on every page, and enough pages. -/
theorem readAll_eq {entries : List α} {rooms : List ℕ} (hrooms : ∀ room ∈ rooms, 1 ≤ room)
    {offset : ℕ} (henough : entries.length - offset < rooms.length) :
    readAll entries offset rooms = (entries.drop offset, true) := by
  induction rooms generalizing offset with
  | nil => exact absurd henough (Nat.not_lt_zero _)
  | cons room rooms ih =>
      rw [readAll]
      rcases getLast?_page entries offset (hrooms room List.mem_cons_self) with
        ⟨hend, hnone⟩ | ⟨cookie, a, hlast, hcookie, hlt⟩
      · rw [hnone, List.drop_of_length_le hend]
      · rw [List.length_cons] at henough
        have hrest : readAll entries cookie rooms = (entries.drop cookie, true) :=
          ih (fun r hr => hrooms r (List.mem_cons_of_mem room hr)) (by omega)
        simp only [hlast, hrest, map_snd_page]
        -- what is behind the cookie is what the page left
        have hdrop : entries.drop cookie = (entries.drop offset).drop room := by
          rw [List.drop_drop]
          rcases Nat.le_total (offset + room) entries.length with hle | hle
          · rw [hcookie, Nat.min_eq_left hle]
          · rw [hcookie, Nat.min_eq_right hle, List.drop_length, List.drop_of_length_le hle]
        rw [hdrop, List.take_append_drop]

end Paging
