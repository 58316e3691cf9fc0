/-
LamcoRdp/Lib/Gop.lean

Coded pictures and what of them can be decoded.

A coded picture that is no keyframe refers to the picture before it.  A receiver
that misses some pictures can decode it only if it got the last keyframe and
everything from there on.  A log lists the pictures of one encoder in order and
says of each whether the receiver got it.
-/
import Mathlib.Data.List.Induction

namespace Gop

/-- A picture: whether it is a key picture, and whether it reaches the decoder. -/
structure Picture where
  key : Bool
  delivered : Bool
  deriving DecidableEq, Repr

/-- The pictures from the last keyframe on. -/
def sinceKeyframe (log : List Picture) : List Picture :=
  log.foldl (fun since p => if p.key then [p] else if since = [] then [] else since ++ [p]) []

/-- There was a keyframe, and it and all after it arrived. -/
def Intact (log : List Picture) : Prop :=
  sinceKeyframe log ≠ [] ∧ ∀ p ∈ sinceKeyframe log, p.delivered = true

instance (log : List Picture) : Decidable (Intact log) := inferInstanceAs (Decidable (_ ∧ _))

/-- A picture that follows these can be decoded. -/
def Decodable (log : List Picture) (p : Picture) : Prop := p.key = true ∨ Intact log

instance (log : List Picture) (p : Picture) : Decidable (Decodable log p) :=
  inferInstanceAs (Decidable (_ ∨ _))

variable {log : List Picture} {p : Picture}

theorem sinceKeyframe_snoc (log : List Picture) (p : Picture) :
    sinceKeyframe (log ++ [p]) =
      if p.key then [p] else if sinceKeyframe log = [] then [] else sinceKeyframe log ++ [p] := by
  unfold sinceKeyframe
  rw [List.foldl_append]
  rfl

/-- A keyframe that arrives starts anew. -/
theorem intact_of_key (log : List Picture) (hkey : p.key = true) (hp : p.delivered = true) :
    Intact (log ++ [p]) := by
  unfold Intact
  rw [sinceKeyframe_snoc, if_pos hkey]
  refine ⟨List.cons_ne_nil _ _, fun q hq => ?_⟩
  rw [List.mem_singleton.mp hq]
  exact hp

theorem Intact.snoc (h : Intact log) (hp : p.delivered = true) : Intact (log ++ [p]) := by
  cases hkey : p.key with
  | true => exact intact_of_key log hkey hp
  | false =>
      obtain ⟨hne, hall⟩ := h
      unfold Intact
      rw [sinceKeyframe_snoc, hkey, if_neg Bool.false_ne_true, if_neg hne]
      refine ⟨List.append_ne_nil_of_left_ne_nil hne _, fun q hq => ?_⟩
      rcases List.mem_append.mp hq with hq | hq
      · exact hall q hq
      · rw [List.mem_singleton.mp hq]
        exact hp

/-- As long as everything arrives, the log stays intact. -/
theorem Intact.append (h : Intact log) {ps : List Picture} (hps : ∀ p ∈ ps, p.delivered = true) :
    Intact (log ++ ps) := by
  induction ps using List.reverseRecOn with
  | nil => rwa [List.append_nil]
  | append_singleton ps p ih =>
      rw [← List.append_assoc]
      exact (ih fun q hq => hps q (List.mem_append_left _ hq)).snoc
        (hps p (List.mem_append_right _ (List.mem_singleton_self p)))

/-- Pictures that arrive after an intact log can all be decoded. -/
theorem Intact.decodable (h : Intact log) {ps : List Picture}
    (hps : ∀ p ∈ ps, p.delivered = true) {pre post : List Picture} (heq : ps = pre ++ p :: post) :
    Decodable (log ++ pre) p :=
  Or.inr (h.append fun q hq => hps q (heq ▸ List.mem_append_left _ hq))

/-- Pictures that arrive and start with a keyframe leave the log intact. -/
theorem intact_of_head {ps : List Picture} (hkey : p.key = true)
    (hps : ∀ q ∈ p :: ps, q.delivered = true) : Intact (log ++ p :: ps) := by
  have h := intact_of_key log hkey (hps p (List.mem_cons_self ..))
  have happ := h.append fun q hq => hps q (List.mem_cons_of_mem p hq)
  rwa [List.append_assoc] at happ

end Gop
