import Boardwright.Board.Settings
import Boardwright.Proofs.Decoding
import Mathlib.Order.Bounds.Defs

/-!
# Sizes in words

A value of a port takes up a number of words, and the software queue and the
polling credit of a CPU binding are counted in words.  These numbers are computed
in 64 bits, where results wrap around.  This file says when they are what they
stand for.

* `PortSettings.Exact` is what the three numbers stand for, and `PortSettings.Fits`
  is that no step of the computation leaves the range.
* `words_isLeast_iff` is about the number of words of a value, and `mul_exact_iff`
  about the products.
* `settings_natural`: if a board and a binding give no negative number, there is none
  among the effective settings.  `override_natural` is the step.

A document may give any number that is not negative, and nothing looks at it again.
So `words_exact_iff_fits` is an equivalence, and `wideTable` is a document on which the
numbers are what they stand for or not, depending on one bit.
-/

namespace Boardwright

namespace PortSettings

/-- The three numbers are what they stand for: the least positive number of words that
hold a value, and two products. -/
structure Exact (s : PortSettings) : Prop where
  words : IsLeast {n : Int | 1 ≤ n ∧ s.bitWidth.toInt ≤ 32 * n} s.words.toInt
  swQueue : s.swQueueWords.toInt = s.swQueue.toInt * s.words.toInt
  poll : s.pollWords.toInt = s.pollCount.toInt * s.words.toInt

/-- The number of words that hold so many bits. -/
def wordsFor (bits : Int) : Int := max 1 ((bits + 31) / 32)

/-- Neither the rounded width nor one of the products is too large. -/
structure Fits (s : PortSettings) : Prop where
  width : s.bitWidth.toInt + 31 ≤ Int64.maxValue.toInt
  swQueue : s.swQueue.toInt * wordsFor s.bitWidth.toInt ≤ Int64.maxValue.toInt
  poll : s.pollCount.toInt * wordsFor s.bitWidth.toInt ≤ Int64.maxValue.toInt

/-- No setting is negative. -/
structure Natural (s : PortSettings) : Prop where
  hwQueue : 0 ≤ s.hwQueue
  swQueue : 0 ≤ s.swQueue
  bitWidth : 0 ≤ s.bitWidth
  pollCount : 0 ≤ s.pollCount

/-! ## Numbers of words -/

theorem wordsFor_isLeast (bits : Int) :
    IsLeast {n : Int | 1 ≤ n ∧ bits ≤ 32 * n} (wordsFor bits) := by
  unfold wordsFor
  constructor
  · show 1 ≤ max 1 ((bits + 31) / 32) ∧ bits ≤ 32 * max 1 ((bits + 31) / 32)
    omega
  · rintro n ⟨hpos, hbits⟩
    omega

variable {s : PortSettings}

/-- Rounding up within the range. -/
theorem words_of_fit (h : 0 ≤ s.bitWidth.toInt)
    (hfit : s.bitWidth.toInt + 31 ≤ Int64.maxValue.toInt) :
    s.words.toInt = wordsFor s.bitWidth.toInt := by
  rw [Int64.toInt_maxValue] at hfit
  have h31 : (31 : Int64).toInt = 31 := by decide
  have h32 : (32 : Int64).toInt = 32 := by decide
  unfold words wordsFor
  split
  · next hnarrow =>
    have hone : (1 : Int64).toInt = 1 := by decide
    have hbits := Int64.le_iff_toInt_le.1 hnarrow
    omega
  · next hwide =>
    have hbits := Int64.lt_iff_toInt_lt.1 (Int64.not_le.1 hwide)
    have hadd : (s.bitWidth + 31).toInt = s.bitWidth.toInt + 31 := by
      rw [Int64.toInt_add, h31]
      exact Int.bmod_eq_of_le (by omega) (by omega)
    have hdiv : ((s.bitWidth + 31) / 32).toInt = (s.bitWidth.toInt + 31) / 32 := by
      rw [Int64.toInt_div_of_ne_right _ _ (by decide), hadd, h32,
        Int.tdiv_eq_ediv_of_nonneg (by omega)]
    omega

/-- Rounding up leaves the range, and comes back at its lower end. -/
theorem words_of_overflow (h : Int64.maxValue.toInt < s.bitWidth.toInt + 31) :
    s.words.toInt ≤ 0 := by
  have hle := Int64.toInt_le s.bitWidth
  rw [Int64.toInt_maxValue] at h hle
  have h31 : (31 : Int64).toInt = 31 := by decide
  have h32 : (32 : Int64).toInt = 32 := by decide
  unfold words
  split
  · next hnarrow =>
    have hbits := Int64.le_iff_toInt_le.1 hnarrow
    omega
  · have hadd : (s.bitWidth + 31).toInt ≤ 0 := by
      rw [Int64.toInt_add, h31, Int.bmod_def]
      omega
    have hneg : 0 ≤ (-(s.bitWidth + 31).toInt).tdiv 32 :=
      Int.tdiv_nonneg (by omega) (by decide)
    rw [Int.neg_tdiv] at hneg
    rw [Int64.toInt_div_of_ne_right _ _ (by decide), h32]
    omega

theorem words_isLeast_iff (h : 0 ≤ s.bitWidth.toInt) :
    IsLeast {n : Int | 1 ≤ n ∧ s.bitWidth.toInt ≤ 32 * n} s.words.toInt ↔
      s.bitWidth.toInt + 31 ≤ Int64.maxValue.toInt := by
  constructor
  · intro hleast
    by_contra hover
    have hwords := words_of_overflow (Int.not_le.1 hover)
    have hpos : 1 ≤ s.words.toInt := hleast.1.1
    omega
  · intro hfit
    rw [words_of_fit h hfit]
    exact wordsFor_isLeast _

/-! ## Products -/

/-- A product of numbers that are not negative wraps unless it is in the range. -/
theorem mul_exact_iff {a m : Int64} (ha : 0 ≤ a.toInt) (hm : 0 ≤ m.toInt) :
    (a * m).toInt = a.toInt * m.toInt ↔ a.toInt * m.toInt ≤ Int64.maxValue.toInt := by
  constructor
  · intro hexact
    rw [← hexact]
    exact Int64.toInt_le _
  · intro hfit
    have hprod := Int.mul_nonneg ha hm
    rw [Int64.toInt_maxValue] at hfit
    rw [Int64.toInt_mul]
    exact Int.bmod_eq_of_le (by omega) (by omega)

namespace Natural

variable (hs : s.Natural)

include hs

theorem exact_iff_fits : s.Exact ↔ s.Fits := by
  have hbits := Int64.le_iff_toInt_le.1 hs.bitWidth
  have hqueue := Int64.le_iff_toInt_le.1 hs.swQueue
  have hcount := Int64.le_iff_toInt_le.1 hs.pollCount
  have hwords (hfit : s.bitWidth.toInt + 31 ≤ Int64.maxValue.toInt) : 0 ≤ s.words.toInt := by
    have hpos : 1 ≤ s.words.toInt := ((words_isLeast_iff hbits).2 hfit).1.1
    omega
  constructor
  · intro hexact
    have hfit := (words_isLeast_iff hbits).1 hexact.words
    have heq := words_of_fit hbits hfit
    exact ⟨hfit, heq ▸ (mul_exact_iff hqueue (hwords hfit)).1 hexact.swQueue,
      heq ▸ (mul_exact_iff hcount (hwords hfit)).1 hexact.poll⟩
  · intro hfits
    have heq := words_of_fit hbits hfits.width
    exact ⟨(words_isLeast_iff hbits).2 hfits.width,
      (mul_exact_iff hqueue (hwords hfits.width)).2 (heq ▸ hfits.swQueue),
      (mul_exact_iff hcount (hwords hfits.width)).2 (heq ▸ hfits.poll)⟩

/-- Numbers that are what they stand for are not negative. -/
theorem nonneg_of_exact (h : s.Exact) :
    0 ≤ s.words.toInt ∧ 0 ≤ s.swQueueWords.toInt ∧ 0 ≤ s.pollWords.toInt := by
  have hpos : 1 ≤ s.words.toInt := h.words.1.1
  have hwords : 0 ≤ s.words.toInt := by omega
  rw [h.swQueue, h.poll]
  exact ⟨hwords, Int.mul_nonneg (Int64.le_iff_toInt_le.1 hs.swQueue) hwords,
    Int.mul_nonneg (Int64.le_iff_toInt_le.1 hs.pollCount) hwords⟩

/-! ## Settings -/

theorem override_natural {setting : Setting} (h : ∀ n ∈ setting.number?, 0 ≤ n) :
    (s.override setting).Natural := by
  cases setting with
  | debug => exact hs
  | hwQueue n => exact { hs with hwQueue := h n rfl }
  | swQueue n => exact { hs with swQueue := h n rfl }
  | bitWidth n => exact { hs with bitWidth := h n rfl }
  | poll n => exact { hs with pollCount := h n rfl }

theorem overrides_natural {options : List Setting}
    (h : ∀ n ∈ options.filterMap Setting.number?, 0 ≤ n) :
    (options.foldl override s).Natural := by
  induction options generalizing s with
  | nil => exact hs
  | cons setting options ih =>
    refine ih (hs.override_natural fun n hn => ?_) fun n hn => ?_
    · exact h n (List.mem_filterMap.2 ⟨setting, List.mem_cons_self, hn⟩)
    · obtain ⟨other, hother, hnumber⟩ := List.mem_filterMap.1 hn
      exact h n (List.mem_filterMap.2 ⟨other, List.mem_cons_of_mem _ hother, hnumber⟩)

end Natural

end PortSettings

namespace Board

variable {b : Board}

/-- The first size of one sort, or a default. -/
theorem first_natural {options : List Setting} {pick : Setting → Option Int64} {default : Int64}
    (hpick : ∀ setting n, pick setting = some n → setting.number? = some n)
    (h : ∀ n ∈ options.filterMap Setting.number?, 0 ≤ n) (hdefault : 0 ≤ default) :
    0 ≤ (options.findSome? pick).getD default := by
  cases hfirst : options.findSome? pick with
  | none => exact hdefault
  | some n =>
    obtain ⟨setting, hsetting, hn⟩ := List.exists_of_findSome?_eq_some hfirst
    exact h n (List.mem_filterMap.2 ⟨setting, hsetting, hpick setting n hn⟩)

theorem portDefaults_natural (h : ∀ n ∈ b.options.filterMap Setting.number?, 0 ≤ n) :
    b.portDefaults.Natural where
  hwQueue := first_natural (by rintro (_ | _ | _ | _ | _) n hn <;> simp_all [Setting.number?]) h
    (by decide)
  swQueue := first_natural (by rintro (_ | _ | _ | _ | _) n hn <;> simp_all [Setting.number?]) h
    (by decide)
  bitWidth := show 0 ≤ PortSettings.defaultBitWidth by decide
  pollCount := Int64.le_refl 0

theorem settings_natural (h : ∀ n ∈ b.options.filterMap Setting.number?, 0 ≤ n)
    {binding : CpuBinding} (hbinding : ∀ n ∈ binding.options.filterMap Setting.number?, 0 ≤ n) :
    (b.settings binding).Natural :=
  (portDefaults_natural h).overrides_natural hbinding

end Board

/-- The number of words of a value, the software queue in words and the polling credit in
words are the least number that is large enough and the two products if and only if none
of them leaves the range on the way.  They are not negative then. -/
theorem words_exact_iff_fits (file : String) (t : Toml.Table) (b : Board)
    (h : Board.ofTable file t = .ok b) (binding : CpuBinding)
    (hbinding : binding ∈ b.cpuBindings) :
    ((b.settings binding).Exact ↔ (b.settings binding).Fits) ∧
      ((b.settings binding).Exact →
        0 ≤ (b.settings binding).words.toInt ∧ 0 ≤ (b.settings binding).swQueueWords.toInt ∧
          0 ≤ (b.settings binding).pollWords.toInt) := by
  have hfrom := Board.boardFrom_of_ok h
  have hnatural := Board.settings_natural hfrom.numbers (hfrom.binding_numbers hbinding)
  exact ⟨hnatural.exact_iff_fits, hnatural.nonneg_of_exact⟩

/-- A document with one binding of a given width. -/
def wideTable (bits : Int64) : Toml.Table where
  entries := [
    ("instance", 1, .tables [{ line := 1, entries := [
      ("name", 2, .string "i"), ("core", 3, .string "c"),
      ("bind", 4, .tables [{ line := 4, entries := [
        ("port", 5, .string "p"), ("cpu", 6, .boolean true), ("swqueue", 7, .integer 1),
        ("poll", 8, .integer 31), ("bitwidth", 9, .integer bits)] }])] }])]

def wideBinding (bits : Int64) : CpuBinding where
  port := "p"
  options := [.swQueue 1, .bitWidth bits, .poll 31]
  pos := { file := "b.toml", line := 5 }

/-- The board in `wideTable`. -/
def wideBoard (bits : Int64) : Board where
  instances := [
    { name := "i", core := "c", pos := { file := "b.toml", line := 2 }
      bindings := [.cpu (wideBinding bits)] }]
  pos := { file := "b.toml", line := 1 }

/-- The largest width for which nothing wraps. -/
theorem words_exact_iff_fits_widest :
    Board.ofTable "b.toml" (wideTable 9223372036854775776) =
        .ok (wideBoard 9223372036854775776) ∧
      wideBinding 9223372036854775776 ∈ (wideBoard 9223372036854775776).cpuBindings ∧
      ((wideBoard 9223372036854775776).settings (wideBinding 9223372036854775776)).Exact := by
  have hread : Board.ofTable "b.toml" (wideTable 9223372036854775776) =
      .ok (wideBoard 9223372036854775776) := by rfl
  have hbinding : wideBinding 9223372036854775776 ∈
      (wideBoard 9223372036854775776).cpuBindings := by decide
  refine ⟨hread, hbinding, (words_exact_iff_fits _ _ _ hread _ hbinding).1.2 ?_⟩
  exact ⟨by decide +kernel, by decide +kernel, by decide +kernel⟩

/-- One bit more, and a document that is accepted has a binding whose values take up a
negative number of words. -/
theorem words_negative_one_bit_wider :
    Board.ofTable "b.toml" (wideTable 9223372036854775777) =
        .ok (wideBoard 9223372036854775777) ∧
      wideBinding 9223372036854775777 ∈ (wideBoard 9223372036854775777).cpuBindings ∧
      ((wideBoard 9223372036854775777).settings
        (wideBinding 9223372036854775777)).words = -288230376151711744 ∧
      ¬ ((wideBoard 9223372036854775777).settings (wideBinding 9223372036854775777)).Exact := by
  refine ⟨by rfl, by decide, by decide, fun hexact => ?_⟩
  exact absurd hexact.words.1.1 (by decide +kernel)

end Boardwright
