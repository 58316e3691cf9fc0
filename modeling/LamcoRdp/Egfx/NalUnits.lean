/-
LamcoRdp/Egfx/NalUnits.lean

NAL units in an Annex B byte stream (`parse_annex_b_nals` of
`egfx/encode_diagnostics.rs`, `annex_b_to_avc` of `egfx/encoder.rs`,
`extract_sps_pps` of the VA-API and NVENC encoders), and the parameter sets the
NVENC encoder repeats in front of its P-frames.

All three readers run the same loop: find a start code of three or four bytes,
take the NAL unit up to the next one.  They differ in what they do with a unit,
and in where they begin to look for its end: `annex_b_to_avc` at its first
byte, the others behind it.
-/
import LamcoRdp.Egfx.Encoder
import LamcoRdp.Lib.Delimited
import LamcoRdp.Lib.Runs

namespace LamcoRdp

open Delimited

/-! ### The readers -/

/-- The length of the start code at the head of `data[i..]`. -/
def startCodeLen (data : List UInt8) : Option ℕ :=
  if data.take 4 = [0x00, 0x00, 0x00, 0x01] then some 4
  else if data.take 3 = [0x00, 0x00, 0x01] then some 3
  else none

/-- The loop of the readers: start codes, each with its NAL unit.  A start code with no byte
behind it gives no unit. -/
def nalUnits (first : ℕ) (data : List UInt8) : List (List UInt8 × List UInt8) :=
  (units startCodeLen first data).filter fun u => !u.2.isEmpty

/-- `nal_type`. -/
def nalType (nal : List UInt8) : UInt8 := nal.headD 0 &&& 0x1F

/-- `parse_annex_b_nals`. -/
def parseAnnexBNals (data : List UInt8) : List (UInt8 × List UInt8) :=
  (nalUnits 1 data).map fun u => (nalType u.2, u.2)

/-- `u32::to_be_bytes`. -/
def u32ToBeBytes (n : ℕ) : List UInt8 :=
  [UInt8.ofNat (n / 2 ^ 24), UInt8.ofNat (n / 2 ^ 16), UInt8.ofNat (n / 2 ^ 8), UInt8.ofNat n]

/-- `annex_b_to_avc`. -/
def annexBToAvc (annexBData : List UInt8) : List UInt8 :=
  (nalUnits 0 annexBData).flatMap fun u => u32ToBeBytes (wrapU32 u.2.length) ++ u.2

/-- NAL type 7 is SPS, NAL type 8 is PPS. -/
def isParameterSet (nal : List UInt8) : Bool := nalType nal == 7 || nalType nal == 8

/-- `extract_sps_pps`. -/
def extractSpsPps (data : List UInt8) : Option (List UInt8) :=
  let spsPps := ((nalUnits 1 data).filter fun u => isParameterSet u.2).flatMap fun u => u.1 ++ u.2
  if spsPps.isEmpty then none else some spsPps

/-! ### The format -/

/-- A start code, with or without the leading zero byte. -/
def startCode (long : Bool) : List UInt8 :=
  if long then [0x00, 0x00, 0x00, 0x01] else [0x00, 0x00, 0x01]

/-- What an encoder may put into a NAL unit: there is a byte, the last one is not zero, and
the bytes of a start code do not occur. -/
structure NalOk (nal : List UInt8) : Prop where
  ne_nil : nal ≠ []
  last_ne_zero : ∀ h : nal ≠ [], nal.getLast h ≠ 0
  no_start_code : ¬ [0x00, 0x00, 0x01] <:+: nal

instance (nal : List UInt8) : Decidable (NalOk nal) :=
  decidable_of_iff
    (nal ≠ [] ∧ (∀ h : nal ≠ [], nal.getLast h ≠ 0) ∧ ¬ [0x00, 0x00, 0x01] <:+: nal)
    ⟨fun h => ⟨h.1, h.2.1, h.2.2⟩, fun h => ⟨h.1, h.2, h.3⟩⟩

/-- The Annex B stream of NAL units, each with a start code of either length. -/
def annexB (us : List (Bool × List UInt8)) : List UInt8 :=
  us.flatMap fun u => startCode u.1 ++ u.2

/-- A reader of length-prefixed NAL units, with a bound on its rounds. -/
def readAvcFuel : ℕ → List UInt8 → Option (List (List UInt8))
  | _, [] => some []
  | fuel + 1, a :: b :: c :: d :: data =>
      let len := a.toNat * 2 ^ 24 + b.toNat * 2 ^ 16 + c.toNat * 2 ^ 8 + d.toNat
      if len ≤ data.length then
        (readAvcFuel fuel (data.drop len)).map fun nals => data.take len :: nals
      else none
  | _, _ => none

/-- The NAL units of a length-prefixed stream. -/
def readAvc (data : List UInt8) : Option (List (List UInt8)) := readAvcFuel data.length data

/-! ### Start codes -/

theorem startCodeLen_pos (s : List UInt8) (n : ℕ) (h : startCodeLen s = some n) :
    0 < n ∧ n ≤ s.length := by
  rw [startCodeLen] at h
  split at h
  · rename_i hs
    obtain rfl := Option.some.inj h
    have hl : min 4 s.length = 4 := by
      rw [← List.length_take, hs]
      rfl
    exact ⟨Nat.succ_pos 3, by omega⟩
  split at h
  · rename_i hs
    obtain rfl := Option.some.inj h
    have hl : min 3 s.length = 3 := by
      rw [← List.length_take, hs]
      rfl
    exact ⟨Nat.succ_pos 2, by omega⟩
  · cases h

theorem startCodeLen_startCode (long : Bool) (s : List UInt8) :
    startCodeLen (startCode long ++ s) = some (startCode long).length := by
  cases long <;> simp [startCode, startCodeLen]

/-- No start code opens inside a NAL unit, whatever follows it. -/
theorem NalOk.silent {nal : List UInt8} (h : NalOk nal) (rest : List UInt8) :
    Silent startCodeLen nal rest := by
  intro i hi
  -- the window may reach beyond the unit, but not without its last byte
  have hne : nal.drop i ≠ [] := List.ne_nil_of_length_pos (by rw [List.length_drop]; omega)
  have hlast : ∀ hne : nal.drop i ≠ [], (nal.drop i).getLast hne ≠ 0 := by
    intro hne
    rw [List.getLast_drop]
    exact h.last_ne_zero h.ne_nil
  have hinfix : ¬ [0x00, 0x00, 0x01] <:+: nal.drop i :=
    fun hin => h.no_start_code (hin.trans (List.drop_suffix i nal).isInfix)
  generalize nal.drop i = t at hne hlast hinfix
  match t with
  | [] => exact absurd rfl hne
  | [a] =>
      have ha : a ≠ 0 := hlast hne
      simp [startCodeLen, ha]
  | [a, b] =>
      have hb : b ≠ 0 := hlast hne
      simp [startCodeLen, hb]
  | [a, b, c] =>
      have hc : c ≠ 0 := hlast hne
      have habc : ¬ (a = 0 ∧ b = 0 ∧ c = 1) := by
        rintro ⟨rfl, rfl, rfl⟩
        exact hinfix (List.infix_refl _)
      simp [startCodeLen, hc, habc]
  | a :: b :: c :: d :: t =>
      have habc : ¬ (a = 0 ∧ b = 0 ∧ c = 1) := by
        rintro ⟨rfl, rfl, rfl⟩
        exact hinfix ⟨[], d :: t, rfl⟩
      have hbcd : ¬ (a = 0 ∧ b = 0 ∧ c = 0 ∧ d = 1) := by
        rintro ⟨rfl, rfl, rfl, rfl⟩
        exact hinfix ⟨[0], t, rfl⟩
      simp [startCodeLen, habc, hbcd]

/-! ### Reading a stream back -/

theorem annexB_cons (u : Bool × List UInt8) (us : List (Bool × List UInt8)) :
    annexB (u :: us) = startCode u.1 ++ (u.2 ++ annexB us) := by
  show (startCode u.1 ++ u.2) ++ annexB us = _
  rw [List.append_assoc]

theorem annexB_append (us vs : List (Bool × List UInt8)) :
    annexB (us ++ vs) = annexB us ++ annexB vs := List.flatMap_append

/-- A stream is cut where its start codes are. -/
theorem reads_annexB {first : ℕ} (hfirst : first ≤ 1) {us : List (Bool × List UInt8)}
    (h : ∀ u ∈ us, NalOk u.2) :
    Reads startCodeLen first (annexB us) (us.map fun u => (startCode u.1, u.2)) := by
  induction us with
  | nil => exact Reads.done (silent_nil _)
  | cons u us ih =>
      have hu : NalOk u.2 := h u List.mem_cons_self
      have hlen : 0 < u.2.length := List.length_pos_iff.mpr hu.ne_nil
      have hbody : Silent startCodeLen (u.2.drop first) (annexB us) := by
        intro i hi
        rw [List.drop_drop]
        rw [List.length_drop] at hi
        exact hu.silent _ _ (by omega)
      have hrest : annexB us = [] ∨ first ≤ u.2.length ∧ (startCodeLen (annexB us)).isSome := by
        rcases us with - | ⟨v, us⟩
        · exact Or.inl rfl
        · rw [annexB_cons, startCodeLen_startCode]
          exact Or.inr ⟨by omega, rfl⟩
      rw [annexB_cons]
      exact Reads.unit (silent_nil _) (startCodeLen_startCode _ _) hbody hrest
        (ih fun v hv => h v (List.mem_cons_of_mem u hv))

/-- The loop gives a stream's units back, wherever it begins to look for their ends. -/
theorem nalUnits_annexB {first : ℕ} (hfirst : first ≤ 1) {us : List (Bool × List UInt8)}
    (h : ∀ u ∈ us, NalOk u.2) :
    nalUnits first (annexB us) = us.map fun u => (startCode u.1, u.2) := by
  rw [nalUnits, (units_eq_iff startCodeLen_pos).mpr (reads_annexB hfirst h), List.filter_eq_self]
  intro v hv
  obtain ⟨u, hu, rfl⟩ := List.mem_map.mp hv
  have hne := (h u hu).ne_nil
  simpa using hne

/-- `parse_annex_b_nals` reads every stream back. -/
theorem parseAnnexBNals_annexB {us : List (Bool × List UInt8)} (h : ∀ u ∈ us, NalOk u.2) :
    parseAnnexBNals (annexB us) = us.map fun u => (nalType u.2, u.2) := by
  rw [parseAnnexBNals, nalUnits_annexB (Nat.le_refl 1) h, List.map_map]
  rfl

/-- `extract_sps_pps` keeps the parameter sets with their start codes. -/
theorem extractSpsPps_annexB {us : List (Bool × List UInt8)} (h : ∀ u ∈ us, NalOk u.2) :
    extractSpsPps (annexB us) =
      if us.filter (fun u => isParameterSet u.2) = [] then none
      else some (annexB (us.filter fun u => isParameterSet u.2)) := by
  have hkeep : (((us.map fun u => (startCode u.1, u.2)).filter fun u => isParameterSet u.2).flatMap
      fun u => u.1 ++ u.2) = annexB (us.filter fun u => isParameterSet u.2) := by
    rw [List.filter_map, List.flatMap_map]
    rfl
  rw [extractSpsPps, nalUnits_annexB (Nat.le_refl 1) h]
  show (if (List.flatMap _ _).isEmpty = true then none else some (List.flatMap _ _)) = _
  rw [hkeep]
  generalize us.filter (fun u => isParameterSet u.2) = kept
  rcases kept with - | ⟨u, kept⟩
  · rfl
  · rw [annexB_cons, if_neg (List.cons_ne_nil _ _), if_neg]
    rcases u.1 with - | - <;> exact Bool.false_ne_true

/-! ### Length prefixes -/

theorem readAvcFuel_cons {fuel : ℕ} {nal data : List UInt8} (h : nal.length < 2 ^ 32) :
    readAvcFuel (fuel + 1) (u32ToBeBytes nal.length ++ (nal ++ data)) =
      (readAvcFuel fuel data).map fun nals => nal :: nals := by
  have hlen : (UInt8.ofNat (nal.length / 2 ^ 24)).toNat * 2 ^ 24 +
      (UInt8.ofNat (nal.length / 2 ^ 16)).toNat * 2 ^ 16 +
      (UInt8.ofNat (nal.length / 2 ^ 8)).toNat * 2 ^ 8 + (UInt8.ofNat nal.length).toNat =
      nal.length := by
    simp only [UInt8.toNat_ofNat']
    omega
  show (if _ + _ + _ + _ ≤ (nal ++ data).length then
    (readAvcFuel fuel ((nal ++ data).drop _)).map fun nals => (nal ++ data).take _ :: nals
    else none) = _
  rw [hlen, if_pos (by rw [List.length_append]; exact Nat.le_add_right _ _), List.drop_left,
    List.take_left]

theorem readAvcFuel_flatMap {nals : List (List UInt8)} (h : ∀ nal ∈ nals, nal.length < 2 ^ 32)
    {fuel : ℕ} (hfuel : nals.length ≤ fuel) :
    readAvcFuel fuel (nals.flatMap fun nal => u32ToBeBytes nal.length ++ nal) = some nals := by
  induction nals generalizing fuel with
  | nil => cases fuel <;> rfl
  | cons nal nals ih =>
      rcases fuel with - | fuel
      · exact absurd hfuel (Nat.not_succ_le_zero _)
      have hnal := h nal List.mem_cons_self
      have hrest := ih (fun n hn => h n (List.mem_cons_of_mem nal hn)) (Nat.le_of_succ_le_succ hfuel)
      rw [List.flatMap_cons, List.append_assoc, readAvcFuel_cons hnal, hrest]
      rfl

/-- What `annex_b_to_avc` writes is read back as the NAL units it found. -/
theorem readAvc_annexBToAvc {data : List UInt8} (h : data.length < 2 ^ 32) :
    readAvc (annexBToAvc data) = some ((nalUnits 0 data).map Prod.snd) := by
  -- no NAL unit is longer than the stream
  have hnal : ∀ nal ∈ (nalUnits 0 data).map Prod.snd, nal.length < 2 ^ 32 := by
    intro nal hnal
    obtain ⟨u, hu, rfl⟩ := List.mem_map.mp hnal
    obtain ⟨junk, -, hdata⟩ :=
      (reads_units startCodeLen_pos data : Reads startCodeLen 0 _ _).exists_junk
    have hin : u.1 ++ u.2 <:+: (units startCodeLen 0 data).flatMap fun u => u.1 ++ u.2 :=
      List.infix_of_mem_flatten (List.mem_map_of_mem (List.mem_of_mem_filter hu))
    have hle := hin.length_le
    have hlen := congrArg List.length hdata
    rw [List.length_append] at hle hlen
    omega
  have hout : annexBToAvc data = ((nalUnits 0 data).map Prod.snd).flatMap
      fun nal => u32ToBeBytes nal.length ++ nal := by
    rw [annexBToAvc, List.flatMap_map]
    refine List.flatMap_congr fun u hu => ?_
    have hu := hnal u.2 (List.mem_map_of_mem hu)
    rw [wrapU32, Nat.mod_eq_of_lt hu]
  rw [readAvc, hout]
  refine readAvcFuel_flatMap hnal ?_
  generalize (nalUnits 0 data).map Prod.snd = nals
  induction nals with
  | nil => exact Nat.le_refl 0
  | cons nal nals ih =>
      rw [List.flatMap_cons, List.length_append, List.length_append, List.length_cons]
      show _ ≤ 4 + nal.length + _
      omega

/-- The three readers agree on every stream: the NAL units come back with their types, they
come back from behind length prefixes, and the parameter sets are kept as they were. -/
theorem readers_annexB {us : List (Bool × List UInt8)} (h : ∀ u ∈ us, NalOk u.2)
    (hlen : (annexB us).length < 2 ^ 32) :
    parseAnnexBNals (annexB us) = us.map (fun u => (nalType u.2, u.2)) ∧
      readAvc (annexBToAvc (annexB us)) = some (us.map Prod.snd) ∧
      extractSpsPps (annexB us) =
        if us.filter (fun u => isParameterSet u.2) = [] then none
        else some (annexB (us.filter fun u => isParameterSet u.2)) := by
  refine ⟨parseAnnexBNals_annexB h, ?_, extractSpsPps_annexB h⟩
  rw [readAvc_annexBToAvc hlen, nalUnits_annexB (Nat.zero_le 1) h, List.map_map]
  rfl

/-- A parameter set, another with a short start code, and a slice. -/
theorem readers_annexB_three :
    parseAnnexBNals [0, 0, 0, 1, 0x67, 0x42, 0, 0, 1, 0x68, 0xCE, 0, 0, 0, 1, 0x65, 0, 0, 2] =
        [(7, [0x67, 0x42]), (8, [0x68, 0xCE]), (5, [0x65, 0, 0, 2])] ∧
      readAvc (annexBToAvc (annexB
          [(true, [0x67, 0x42]), (false, [0x68, 0xCE]), (true, [0x65, 0, 0, 2])])) =
        some [[0x67, 0x42], [0x68, 0xCE], [0x65, 0, 0, 2]] ∧
      extractSpsPps (annexB
          [(true, [0x67, 0x42]), (false, [0x68, 0xCE]), (true, [0x65, 0, 0, 2])]) =
        some [0, 0, 0, 1, 0x67, 0x42, 0, 0, 1, 0x68, 0xCE] :=
  by
  have h : ∀ u ∈ [(true, [0x67, 0x42]), (false, [0x68, 0xCE]), (true, [0x65, 0, 0, 2])],
      NalOk u.2 := by decide
  exact readers_annexB h (by decide)

end LamcoRdp
