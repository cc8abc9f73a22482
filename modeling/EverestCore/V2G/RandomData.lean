import Mathlib

/-!
# Random data

`generate_random_data` reads until the lengths of its reads add up to the length of the
destination. Every read is for the whole destination, and starts at its first byte.
-/

namespace EverestCore.V2G

inductive ReadResult
  /-- as many bytes as there are, but no more than are asked for -/
  | bytes (available : Nat)
  | interrupted
  | error
  deriving DecidableEq

/-- The results of successive calls of `safe_read`. -/
def safeRead (reads : List ReadResult) : List ReadResult :=
  reads.filter (· ≠ .interrupted)

/-- The loop, with what it returns and where its reads have written: offset and length.
It has not ended as long as a read is outstanding. -/
def readLoop (destLen : Nat) : Nat → List ReadResult → Option (Int × List (Nat × Nat))
  | len, reads =>
    if len < destLen then
      match reads with
      | [] => none
      | .bytes available :: rest =>
        let rv := min available destLen
        (readLoop destLen (len + rv) rest).map fun (result, written) => (result, (0, rv) :: written)
      | _ :: _ => some (-1, [])
    else some (0, [])

def generateRandomData (opened : Bool) (destLen : Nat) (reads : List ReadResult) :
    Option (Int × List (Nat × Nat)) :=
  if opened then readLoop destLen 0 (safeRead reads) else some (-1, [])

/-- Exactly the bytes of the destination have been written. -/
def Fills (destLen : Nat) (written : List (Nat × Nat)) : Prop :=
  ∀ i, (∃ range ∈ written, range.1 ≤ i ∧ i < range.1 + range.2) ↔ i < destLen

/-- Every read starts at the first byte. -/
theorem readLoop_written {destLen len : Nat} {reads : List ReadResult} {rv : Int}
    {written : List (Nat × Nat)}
    (h : readLoop destLen len reads = some (rv, written)) :
    ∀ range ∈ written, range.1 = 0 ∧ range.2 ≤ destLen := by
  induction reads generalizing len written with
  | nil =>
    unfold readLoop at h
    split at h <;> cases h
    exact List.forall_mem_nil _
  | cons read rest ih =>
    unfold readLoop at h
    cases read with
    | bytes available =>
      split at h
      · obtain ⟨⟨result, later⟩, hlater, heq⟩ := Option.map_eq_some_iff.mp h
        cases heq
        exact List.forall_mem_cons.mpr ⟨⟨rfl, Nat.min_le_right _ _⟩, ih hlater⟩
      · cases h
        exact List.forall_mem_nil _
    | interrupted | error => split at h <;> cases h <;> exact List.forall_mem_nil _

def ReadResult.delivered : ReadResult → Nat
  | .bytes available => available
  | _ => 0

/-- A read delivers all that is asked for, before shorter ones have added up to it. -/
def FullRead (destLen len : Nat) (reads : List ReadResult) : Prop :=
  ∃ before available after, reads = before ++ .bytes available :: after ∧ destLen ≤ available ∧
    len + (before.map ReadResult.delivered).sum < destLen

theorem fullRead_cons {destLen len : Nat} {rest : List ReadResult} (read : ReadResult)
    (hshort : read.delivered < destLen) :
    FullRead destLen len (read :: rest) ↔ FullRead destLen (len + read.delivered) rest := by
  constructor
  · rintro ⟨before, available, after, hreads, hfull, hsum⟩
    cases before with
    | nil =>
      cases hreads
      exact absurd hfull (Nat.not_le.mpr hshort)
    | cons first before =>
      cases hreads
      exact ⟨before, available, after, rfl, hfull, by simpa [Nat.add_assoc] using hsum⟩
  · rintro ⟨before, available, after, rfl, hfull, hsum⟩
    exact ⟨read :: before, available, after, rfl, hfull, by simpa [Nat.add_assoc] using hsum⟩

/-- The whole destination is written by a full read only. -/
theorem mem_written_iff {destLen len : Nat} {reads : List ReadResult} {written : List (Nat × Nat)}
    (hpos : 0 < destLen) (h : readLoop destLen len (safeRead reads) = some (0, written)) :
    (0, destLen) ∈ written ↔ FullRead destLen len reads := by
  have hended : ∀ {len reads}, ¬ len < destLen → ¬ FullRead destLen len reads := by
    rintro len reads hge ⟨before, available, after, -, -, hsum⟩
    omega
  induction reads generalizing len written with
  | nil =>
    unfold readLoop safeRead at h
    split at h <;> cases h
    exact iff_of_false List.not_mem_nil (hended ‹_›)
  | cons read rest ih =>
    by_cases hlen : len < destLen
    · cases read with
      | interrupted => exact (ih h).trans (fullRead_cons .interrupted hpos).symm
      | error =>
        simp [safeRead, readLoop, hlen] at h
      | bytes available =>
        rw [show safeRead (.bytes available :: rest) = .bytes available :: safeRead rest from rfl,
          readLoop, if_pos hlen] at h
        obtain ⟨⟨result, later⟩, hlater, heq⟩ := Option.map_eq_some_iff.mp h
        cases heq
        by_cases hfull : destLen ≤ available
        · refine iff_of_true ?_ ⟨[], available, rest, rfl, hfull, hlen⟩
          simp [Nat.min_eq_right hfull]
        · have hmin : min available destLen = available := by omega
          rw [hmin] at hlater ⊢
          refine Iff.trans ?_ ((fullRead_cons (.bytes available) (Nat.not_le.mp hfull)).trans
            (ih hlater).symm).symm
          rw [List.mem_cons, Prod.mk.injEq, or_iff_right]
          omega
    · unfold readLoop at h
      rw [if_neg hlen] at h
      cases h
      exact iff_of_false List.not_mem_nil (hended hlen)

/-- **The destination is filled** exactly if a single read was long enough. -/
theorem random_data_fills_iff (opened : Bool) (destLen : Nat) (reads : List ReadResult)
    (written : List (Nat × Nat)) (h : generateRandomData opened destLen reads = some (0, written)) :
    Fills destLen written ↔ destLen = 0 ∨ FullRead destLen 0 reads := by
  unfold generateRandomData at h
  split at h
  case isFalse => cases h
  have hwritten := readLoop_written h
  by_cases hzero : destLen = 0
  · subst hzero
    refine iff_of_true (fun i => ⟨?_, nofun⟩) (.inl rfl)
    rintro ⟨range, hmem, -, hlt⟩
    have hrange := hwritten range hmem
    omega
  rw [← mem_written_iff (Nat.pos_of_ne_zero hzero) h, or_iff_right hzero]
  constructor
  · intro hfills
    -- the read that has written the last byte
    obtain ⟨range, hmem, -, hlast⟩ := (hfills (destLen - 1)).mpr (by omega)
    obtain ⟨hstart, hle⟩ := hwritten range hmem
    have heq : range = (0, destLen) := Prod.ext hstart (by omega)
    exact heq ▸ hmem
  · intro hmem i
    constructor
    · rintro ⟨range, hrange, -, hlt⟩
      have hbound := hwritten range hrange
      omega
    · intro hi
      exact ⟨_, hmem, Nat.zero_le i, by simpa using hi⟩

/-- A short read, an interruption, and a read of all bytes. -/
theorem interrupted_read_fills : Fills 3 [(0, 1), (0, 3)] :=
  (random_data_fills_iff true 3 [.bytes 1, .interrupted, .bytes 4] _ rfl).mpr
    (.inr ⟨[.bytes 1, .interrupted], 4, [], rfl, by decide, by decide⟩)

/-- The second byte is never written. -/
theorem short_reads_do_not_fill :
    generateRandomData true 2 [.bytes 1, .bytes 1] = some (0, [(0, 1), (0, 1)]) ∧
      ¬ Fills 2 [(0, 1), (0, 1)] := by
  refine ⟨rfl, fun h => ?_⟩
  have hsecond := (h 1).mpr (by decide)
  revert hsecond
  decide

end EverestCore.V2G
