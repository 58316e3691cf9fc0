/-
LamcoRdp/Lib/LastWrite.lean

Maps that are written one key at a time.

`assign f ws` is the map `f` after the assignments `ws`, made in order, so that the last one
of a key decides (`assign_snoc`).
-/
import Mathlib.Data.List.Basic
import Mathlib.Logic.Function.Basic

namespace LastWrite

variable {K V : Type*} [DecidableEq K]

/-- The map after the assignments `ws`, made in order. -/
def assign (f : K → V) (ws : List (K × V)) : K → V :=
  ws.foldl (fun f w => Function.update f w.1 w.2) f

variable {f : K → V} {ws pre post : List (K × V)} {k : K} {v : V}

theorem assign_append (f : K → V) (ws ws' : List (K × V)) :
    assign f (ws ++ ws') = assign (assign f ws) ws' := List.foldl_append

theorem assign_snoc (f : K → V) (ws : List (K × V)) (k : K) (v : V) :
    assign f (ws ++ [(k, v)]) = Function.update (assign f ws) k v := assign_append f ws _

end LastWrite
