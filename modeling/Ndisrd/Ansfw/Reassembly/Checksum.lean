import Ndisrd.Ansfw.Reassembly.Verdict
import Ndisrd.Lib.OnesComplement

/-!
This module contains the arithmetic of `GetChecksum`: its accumulator and its two folds compute a
one's-complement sum, and the header that `PrepareIpHeader` leaves adds up to `0xFFFF`.
-/

namespace Ansfw

-- The 16-bit words of a buffer, an odd last byte padded with zero.
def bufferWords (buffer : Nat → UInt8) : Nat → Nat → List Nat
  | _, 0 => []
  | i, 1 => [(buffer i).toNat]
  | i, size + 2 => wordOfBytes (buffer i) (buffer (i + 1)) :: bufferWords buffer (i + 2) size

def onesSum (buffer : Nat → UInt8) (start size : Nat) : Nat :=
  OnesComplement.sum 65536 (bufferWords buffer start size)

/-! ### `GetChecksum` -/

variable (buffer : Nat → UInt8)

theorem bufferWords_cons (i size : Nat)
    : bufferWords buffer i (size + 2) =
        wordOfBytes (buffer i) (buffer (i + 1)) :: bufferWords buffer (i + 2) size := rfl

theorem wordOfBytes_lt (b0 b1 : UInt8) : wordOfBytes b0 b1 < 65536 := by
  have h0 := b0.toNat_lt
  have h1 := b1.toNat_lt
  rw [wordOfBytes]
  omega

theorem bufferWords_lt (i size : Nat) : ∀ w ∈ bufferWords buffer i size, w < 65536 := by
  induction i, size using bufferWords.induct with
  | case1 i =>
    intro w hw
    cases hw
  | case2 i =>
    intro w hw
    have := (buffer i).toNat_lt
    rw [List.mem_singleton.mp hw]
    omega
  | case3 i size ih =>
    exact List.forall_mem_cons.mpr ⟨wordOfBytes_lt _ _, ih⟩

theorem sum_bufferWords_le (i size : Nat)
    : (bufferWords buffer i size).sum ≤ (size + 1) / 2 * 65535 := by
  induction i, size using bufferWords.induct with
  | case1 i => simp [bufferWords]
  | case2 i =>
    have := (buffer i).toNat_lt
    rw [bufferWords, List.sum_singleton]
    omega
  | case3 i size ih =>
    have := wordOfBytes_lt (buffer i) (buffer (i + 1))
    rw [bufferWords, List.sum_cons]
    omega

/--
The accumulator loses nothing as long as the sum fits into it.
-/
theorem sumWords_eq (i size cksum : Nat) (h : cksum + (bufferWords buffer i size).sum < 0x100000000)
    : sumWords buffer i size cksum = cksum + (bufferWords buffer i size).sum := by
  induction i, size using bufferWords.induct generalizing cksum with
  | case1 i => rfl
  | case2 i =>
    rw [bufferWords, List.sum_singleton] at h ⊢
    rw [sumWords, Nat.mod_eq_of_lt h]
  | case3 i size ih =>
    rw [bufferWords, List.sum_cons, ← Nat.add_assoc] at h ⊢
    rw [sumWords, Nat.mod_eq_of_lt (by omega), ih _ h]

theorem getChecksum_eq {start size : Nat} (hsize : size ≤ 131070)
    : sumWords buffer start size 0 = (bufferWords buffer start size).sum ∧
        getChecksum buffer start size = 65535 - onesSum buffer start size := by
  have hle := sum_bufferWords_le buffer start size
  have hbound : (bufferWords buffer start size).sum < 65536 * 65536 := by omega
  have hsum := sumWords_eq buffer start size 0 (by omega)
  rw [Nat.zero_add] at hsum
  refine ⟨hsum, ?_⟩
  have hones : onesSum buffer start size =
      OnesComplement.fold 65536 (OnesComplement.fold 65536 (bufferWords buffer start size).sum) :=
    (OnesComplement.represents_sum (by decide) (bufferWords_lt buffer start size)).unique
      (OnesComplement.represents_fold_fold hbound)
  -- the second fold leaves its carry above the low word, which the cast drops
  rw [getChecksum, hsum, hones]
  unfold OnesComplement.fold
  omega

/-! ### `PrepareIpHeader` -/

theorem bufferWords_congr {buffer buffer' : Nat → UInt8} {i size : Nat}
    (h : ∀ j, i ≤ j → j < i + size → buffer j = buffer' j)
    : bufferWords buffer i size = bufferWords buffer' i size := by
  induction i, size using bufferWords.induct with
  | case1 i => rfl
  | case2 i => rw [bufferWords, bufferWords, h i (by omega) (by omega)]
  | case3 i size ih =>
    rw [bufferWords, bufferWords, h i (by omega) (by omega), h (i + 1) (by omega) (by omega),
      ih fun j hlow hhigh => h j (by omega) (by omega)]

-- A word takes the place of word `k`.
theorem sum_bufferWords_storeWord {w : Nat} (hw : w < 65536) (i : Nat) {size k : Nat} (hk : 2 * k + 1 < size)
    : (bufferWords (storeWord buffer (i + 2 * k) w) i size).sum +
          wordOfBytes (buffer (i + 2 * k)) (buffer (i + 2 * k + 1)) =
        (bufferWords buffer i size).sum + w := by
  obtain ⟨size, rfl⟩ : ∃ size', size = size' + 2 := ⟨size - 2, by omega⟩
  induction k generalizing i size with
  | zero =>
    have hrest : bufferWords (storeWord buffer i w) (i + 2) size = bufferWords buffer (i + 2) size :=
      bufferWords_congr fun j hlow _ => storeWord_other buffer w (by omega)
    rw [Nat.mul_zero, Nat.add_zero, bufferWords_cons, bufferWords_cons, hrest,
      wordOfBytes_storeWord buffer i hw, List.sum_cons, List.sum_cons]
    omega
  | succ k ih =>
    obtain ⟨size, rfl⟩ : ∃ size', size = size' + 2 := ⟨size - 2, by omega⟩
    have hplace : i + 2 * (k + 1) = i + 2 + 2 * k := by omega
    have hrest := ih (i + 2) size (by omega)
    rw [hplace, bufferWords_cons _ i, bufferWords_cons buffer i, storeWord_other buffer w (by omega),
      storeWord_other buffer w (by omega), List.sum_cons, List.sum_cons]
    omega

/--
Whatever the words of a header whose checksum is zero, it adds up to `0xFFFF` with the checksum.
-/
theorem onesSum_storeWord_getChecksum (i : Nat)
    (hzero : wordOfBytes (buffer (i + 2 * 5)) (buffer (i + 2 * 5 + 1)) = 0)
    : onesSum (storeWord buffer (i + 2 * 5) (getChecksum buffer i 20)) i 20 = 65535 := by
  have hchecksum : getChecksum buffer i 20 = 65536 - 1 - onesSum buffer i 20 :=
    (getChecksum_eq buffer (by decide)).2
  have hsum : (bufferWords (storeWord buffer (i + 2 * 5) (getChecksum buffer i 20)) i 20).sum =
      (bufferWords buffer i 20).sum + getChecksum buffer i 20 := by
    have hword := sum_bufferWords_storeWord buffer (show getChecksum buffer i 20 < 65536 by omega) i
      (show 2 * 5 + 1 < 20 by decide)
    rw [hzero, Nat.add_zero] at hword
    exact hword
  have hbefore := OnesComplement.represents_sum (by decide) (bufferWords_lt buffer i 20)
  have hafter := OnesComplement.represents_sum (by decide)
    (bufferWords_lt (storeWord buffer (i + 2 * 5) (getChecksum buffer i 20)) i 20)
  rw [hsum, hchecksum] at hafter
  rw [hchecksum]
  exact hafter.unique (hbefore.complement (by decide))

theorem prepareIpHeader_checksum (finalbuf : Nat → UInt8) (totallen : Nat)
    : onesSum (prepareIpHeader finalbuf totallen) mHdrSize 20 = 65535 := by
  have hother : ∀ i, i = 24 ∨ i = 25 →
      storeWord (storeWord (storeWord finalbuf 24 0) 16 (ntohs totallen)) 20 0 i =
        storeWord finalbuf 24 0 i := by
    intro i hi
    rw [storeWord_other _ _ (by omega), storeWord_other _ _ (by omega)]
  apply onesSum_storeWord_getChecksum
  simp only [mHdrSize, Nat.reduceAdd, Nat.reduceMul]
  rw [hother 24 (Or.inl rfl), hother 25 (Or.inr rfl)]
  exact wordOfBytes_storeWord finalbuf 24 (by decide)

theorem prepareIpHeader_fields (finalbuf : Nat → UInt8) (totallen : Nat)
    : prepareIpHeader finalbuf totallen 16 = UInt8.ofNat (totallen / 256) ∧
        prepareIpHeader finalbuf totallen 17 = UInt8.ofNat totallen ∧
        prepareIpHeader finalbuf totallen 20 = 0 ∧ prepareIpHeader finalbuf totallen 21 = 0 := by
  have hlen : ∀ i, i = 16 ∨ i = 17 →
      prepareIpHeader finalbuf totallen i = storeWord (storeWord finalbuf 24 0) 16 (ntohs totallen) i := by
    intro i hi
    simp only [prepareIpHeader, mHdrSize]
    rw [storeWord_other _ _ (by omega), storeWord_other _ _ (by omega)]
  have hoff : ∀ i, i = 20 ∨ i = 21 → prepareIpHeader finalbuf totallen i = 0 := by
    intro i hi
    simp only [prepareIpHeader, mHdrSize]
    rw [storeWord_other _ _ (by omega)]
    rcases hi with rfl | rfl
    . rfl
    . rfl
  have hlow : ntohs totallen % 256 = totallen / 256 % 256 := by
    rw [ntohs]
    omega
  have hhigh : ntohs totallen / 256 = totallen % 256 := by
    rw [ntohs]
    omega
  refine ⟨?_, ?_, hoff 20 (Or.inl rfl), hoff 21 (Or.inr rfl)⟩
  . rw [hlen 16 (Or.inl rfl), storeWord, if_pos rfl, hlow]
    exact UInt8.ofNat_mod_size
  . rw [hlen 17 (Or.inr rfl), storeWord, if_neg (by decide), if_pos rfl, hhigh]
    exact UInt8.ofNat_mod_size

/--
What `GetChecksum` computes, and the header that `PrepareIpHeader` leaves: the total length in network
order, no fragment offset, and a sum of `0xFFFF`.
-/
theorem checksum_sound (finalbuf : Nat → UInt8) (totallen : Nat)
    : (onesSum (prepareIpHeader finalbuf totallen) mHdrSize 20 = 0xFFFF ∧
          prepareIpHeader finalbuf totallen (mHdrSize + 2) = UInt8.ofNat (totallen / 256) ∧
          prepareIpHeader finalbuf totallen (mHdrSize + 3) = UInt8.ofNat totallen ∧
          prepareIpHeader finalbuf totallen (mHdrSize + 6) = 0 ∧
          prepareIpHeader finalbuf totallen (mHdrSize + 7) = 0) ∧
        ∀ (buffer : Nat → UInt8) (start size : Nat), size ≤ 131070 →
          sumWords buffer start size 0 = (bufferWords buffer start size).sum ∧
            getChecksum buffer start size = 0xFFFF - onesSum buffer start size := by
  refine ⟨⟨prepareIpHeader_checksum finalbuf totallen, prepareIpHeader_fields finalbuf totallen⟩, ?_⟩
  intro buffer start size hsize
  exact getChecksum_eq buffer hsize

-- A buffer of odd size whose words make one carry, and a header of zeros.
theorem checksum_sound_odd
    : (onesSum (prepareIpHeader (fun _ => 0) 1500) mHdrSize 20 = 0xFFFF ∧
          prepareIpHeader (fun _ => 0) 1500 (mHdrSize + 2) = UInt8.ofNat (1500 / 256) ∧
          prepareIpHeader (fun _ => 0) 1500 (mHdrSize + 3) = UInt8.ofNat 1500 ∧
          prepareIpHeader (fun _ => 0) 1500 (mHdrSize + 6) = 0 ∧
          prepareIpHeader (fun _ => 0) 1500 (mHdrSize + 7) = 0) ∧
        (sumWords (fun _ => 255) 0 5 0 = (bufferWords (fun _ => 255) 0 5).sum ∧
          getChecksum (fun _ => 255) 0 5 = 0xFFFF - onesSum (fun _ => 255) 0 5) :=
  ⟨(checksum_sound (fun _ => 0) 1500).1,
    (checksum_sound (fun _ => 0) 1500).2 (fun _ => 255) 0 5 (by decide)⟩

end Ansfw
