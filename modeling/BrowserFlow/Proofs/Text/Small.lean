import BrowserFlow.Text.Case
import Mathlib.Data.List.Basic

/-!
# Small characters

A character is small if lower-casing leaves it as it is, wherever it stands. No run of the table
maps what another run maps to (`CaseRun.misses`), so a text that was lower-cased has only small
characters (`isSmall_of_mem_lower`) and stays when it is lower-cased again (`lower_of_isSmall`).

A small character that nothing else is mapped to is neither lost nor made: it is in the
lower-cased text just if it is in the text (`mem_lower_iff`).
-/

namespace BrowserFlow.Text

/-! ## The tables -/

namespace CaseRun

def single (n : Nat) : CaseRun := ⟨n, n, 1, 0⟩

def lower (run : CaseRun) : Nat := (run.first + run.offset).toNat

def upper (run : CaseRun) : Nat := (run.last + run.offset).toNat

/-- Nothing that `run` maps to is mapped by `other`: it lies before or behind that run, or
between the code points that it maps. -/
def misses (run other : CaseRun) : Bool :=
  run.upper < other.first || other.last < run.lower ||
    ((run.stride == 2 && 0 < run.lower || run.lower == run.upper) && other.stride == 2 &&
      run.lower % 2 != other.first % 2)

theorem image?_eq_some_iff {run : CaseRun} {n m : Nat} :
    run.image? n = some m ↔
      (run.first ≤ n ∧ n ≤ run.last ∧ (n - run.first) % run.stride = 0) ∧
        ((n : Int) + run.offset).toNat = m := by
  unfold image?
  split_ifs with h
  · simp [h]
  · simp [h]

theorem image?_single (n : Nat) : (single n).image? n = some n := by
  rw [image?_eq_some_iff]
  simp [single]

theorem image?_eq_none_of_misses {run other : CaseRun} (h : run.misses other = true) {n m : Nat}
    (himage : run.image? n = some m) : other.image? m = none := by
  obtain ⟨⟨hfirst, hlast, hstride⟩, rfl⟩ := image?_eq_some_iff.mp himage
  rw [Option.eq_none_iff_forall_ne_some]
  intro p hp
  obtain ⟨⟨hfirst', hlast', hstride'⟩, -⟩ := image?_eq_some_iff.mp hp
  simp only [misses, Bool.or_eq_true, Bool.and_eq_true, decide_eq_true_eq, beq_iff_eq,
    bne_iff_ne] at h
  simp only [lower, upper] at h
  rcases h with (h | h) | ⟨⟨⟨hrun, hpositive⟩ | hrun, hother⟩, hodd⟩
  · omega
  · omega
  · rw [hrun] at hstride
    rw [hother] at hstride'
    omega
  · rw [hother] at hstride'
    omega

end CaseRun

/-- Lower-casing leaves the character of this code point as it is. -/
def isSmall (n : Nat) : Bool :=
  (lowerSequences.find? (·.1 = n)).isNone && (lowerRuns.findSome? (·.image? n)).isNone

theorem misses_lowerRuns : ∀ run ∈ lowerRuns, ∀ other ∈ lowerRuns, run.misses other = true := by
  -- the kernel goes over the pairs much faster as `Bool`
  have hall : lowerRuns.all (fun run => lowerRuns.all run.misses) = true := by decide +kernel
  exact fun run hrun => List.all_eq_true.mp (List.all_eq_true.mp hall run hrun)

theorem misses_lowerSequences :
    ∀ run ∈ lowerRuns, ∀ sequence ∈ lowerSequences, run.misses (.single sequence.1) = true := by
  decide +kernel

theorem isSmall_of_mem_lowerSequences :
    ∀ sequence ∈ lowerSequences, ∀ n ∈ sequence.2, isSmall n = true := by
  decide +kernel

theorem isSmall_capitalSigma : isSmall capitalSigma.toNat = false := by decide +kernel

theorem isSmall_finalSigma : isSmall finalSigma.toNat = true := by decide +kernel

theorem isValidChar_of_mem_lowerSequences :
    ∀ sequence ∈ lowerSequences, ∀ n ∈ sequence.2, n.isValidChar := by
  decide +kernel

theorem bounds_lowerRuns : ∀ run ∈ lowerRuns,
    run.upper < 0xd800 ∨ 0xdfff < run.lower ∧ run.upper < 0x110000 := by
  decide +kernel

theorem isValidChar_of_image? {run : CaseRun} (hrun : run ∈ lowerRuns) {n m : Nat}
    (h : run.image? n = some m) : m.isValidChar := by
  obtain ⟨⟨hfirst, hlast, -⟩, rfl⟩ := CaseRun.image?_eq_some_iff.mp h
  have hbounds := bounds_lowerRuns run hrun
  rw [CaseRun.lower, CaseRun.upper] at hbounds
  rw [Nat.isValidChar]
  omega

/-- What a run maps to is small. -/
theorem isSmall_of_image? {run : CaseRun} (hrun : run ∈ lowerRuns) {n m : Nat}
    (h : run.image? n = some m) : isSmall m = true := by
  rw [isSmall, Bool.and_eq_true, Option.isNone_iff_eq_none, Option.isNone_iff_eq_none,
    List.find?_eq_none, List.findSome?_eq_none_iff]
  constructor
  · intro sequence hsequence heq
    obtain rfl : sequence.1 = m := of_decide_eq_true heq
    have hmiss := CaseRun.image?_eq_none_of_misses (misses_lowerSequences run hrun _ hsequence) h
    rw [CaseRun.image?_single] at hmiss
    cases hmiss
  · exact fun other hother =>
      CaseRun.image?_eq_none_of_misses (misses_lowerRuns run hrun other hother) h

/-! ## Characters and texts -/

theorem toNat_ofNat_of_isValidChar {n : Nat} (h : n.isValidChar) : (Char.ofNat n).toNat = n := by
  rw [Char.ofNat, dif_pos h]
  rfl

/-- A character is mapped by the table of sequences, by a run, or not at all. -/
theorem lowerChar_cases (c : Char) :
    (∃ sequence ∈ lowerSequences, sequence.1 = c.toNat ∧
        lowerChar c = sequence.2.map Char.ofNat) ∨
      (∃ run ∈ lowerRuns, ∃ m, run.image? c.toNat = some m ∧ lowerChar c = [Char.ofNat m]) ∨
      isSmall c.toNat = true ∧ lowerChar c = [c] := by
  unfold lowerChar mapCase
  split
  · rename_i key target hfind
    have hkey : key = c.toNat := by simpa using List.find?_some hfind
    exact Or.inl ⟨_, List.mem_of_find?_eq_some hfind, hkey, rfl⟩
  · rename_i hfind
    split
    · rename_i m hrun
      obtain ⟨run, hmem, himage⟩ := List.exists_of_findSome?_eq_some hrun
      exact Or.inr (Or.inl ⟨run, hmem, m, himage, rfl⟩)
    · rename_i hrun
      exact Or.inr (Or.inr ⟨by rw [isSmall, hfind, hrun]; rfl, rfl⟩)

theorem lowerChar_of_isSmall {c : Char} (h : isSmall c.toNat = true) : lowerChar c = [c] := by
  rw [isSmall, Bool.and_eq_true, Option.isNone_iff_eq_none, Option.isNone_iff_eq_none] at h
  rw [lowerChar, mapCase, h.1, h.2]

theorem isSmall_of_mem_lowerChar {c d : Char} (h : d ∈ lowerChar c) : isSmall d.toNat = true := by
  rcases lowerChar_cases c with ⟨sequence, hmem, -, heq⟩ | ⟨run, hmem, m, himage, heq⟩ | ⟨hc, heq⟩
  · rw [heq] at h
    obtain ⟨n, hn, rfl⟩ := List.mem_map.mp h
    rw [toNat_ofNat_of_isValidChar (isValidChar_of_mem_lowerSequences sequence hmem n hn)]
    exact isSmall_of_mem_lowerSequences sequence hmem n hn
  · rw [heq, List.mem_singleton] at h
    rw [h, toNat_ofNat_of_isValidChar (isValidChar_of_image? hmem himage)]
    exact isSmall_of_image? hmem himage
  · rw [heq, List.mem_singleton] at h
    rw [h, hc]

theorem isSmall_of_mem_lowerFrom {before cs : List Char} {c : Char} (h : c ∈ lowerFrom before cs) :
    isSmall c.toNat = true := by
  induction cs generalizing before with
  | nil => exact absurd h List.not_mem_nil
  | cons d cs ih =>
      rw [lowerFrom, List.mem_append] at h
      rcases h with h | h
      · split at h
        · rw [List.mem_singleton.mp h]
          exact isSmall_finalSigma
        · exact isSmall_of_mem_lowerChar h
      · exact ih h

/-- A text that was lower-cased has only small characters. -/
theorem isSmall_of_mem_lower {cs : List Char} {c : Char} (h : c ∈ lower cs) :
    isSmall c.toNat = true := isSmall_of_mem_lowerFrom h

theorem lowerFrom_of_isSmall {cs : List Char} (h : ∀ c ∈ cs, isSmall c.toNat = true)
    (before : List Char) : lowerFrom before cs = cs := by
  induction cs generalizing before with
  | nil => rfl
  | cons c cs ih =>
      rw [List.forall_mem_cons] at h
      have hsigma : c ≠ capitalSigma := by
        rintro rfl
        rw [isSmall_capitalSigma] at h
        exact absurd h.1 (by decide)
      rw [lowerFrom, if_neg fun hcase => hsigma hcase.1, lowerChar_of_isSmall h.1, ih h.2]
      rfl

/-- A text of small characters stays when it is lower-cased. -/
theorem lower_of_isSmall {cs : List Char} (h : ∀ c ∈ cs, isSmall c.toNat = true) :
    lower cs = cs := lowerFrom_of_isSmall h []

/-! ## Characters that lower-casing neither loses nor makes -/

/-- A small character that no other is mapped to. -/
def isLone (c : Char) : Bool :=
  isSmall c.toNat && c != finalSigma &&
    lowerRuns.all (·.misses (.single c.toNat)) &&
    lowerSequences.all fun sequence => !sequence.2.contains c.toNat

theorem mem_lowerChar_iff {c d : Char} (h : isLone c = true) : c ∈ lowerChar d ↔ c = d := by
  simp only [isLone, Bool.and_eq_true, bne_iff_ne, List.all_eq_true, Bool.not_eq_true',
    List.contains_eq_mem, decide_eq_false_iff_not] at h
  obtain ⟨⟨⟨hsmall, -⟩, hruns⟩, hsequences⟩ := h
  constructor
  · intro hmem
    rcases lowerChar_cases d with ⟨sequence, hsequence, -, heq⟩ | ⟨run, hrun, m, himage, heq⟩ |
      ⟨-, heq⟩
    · rw [heq] at hmem
      obtain ⟨n, hn, rfl⟩ := List.mem_map.mp hmem
      have hvalid := isValidChar_of_mem_lowerSequences sequence hsequence n hn
      rw [toNat_ofNat_of_isValidChar hvalid] at hsequences
      exact absurd hn (hsequences sequence hsequence)
    · rw [heq, List.mem_singleton] at hmem
      rw [hmem, toNat_ofNat_of_isValidChar (isValidChar_of_image? hrun himage)] at hruns
      have hmiss := CaseRun.image?_eq_none_of_misses (hruns run hrun) himage
      rw [CaseRun.image?_single] at hmiss
      cases hmiss
    · rwa [heq, List.mem_singleton] at hmem
  · rintro rfl
    rw [lowerChar_of_isSmall hsmall]
    exact List.mem_singleton_self c

theorem mem_lowerFrom_iff {c : Char} (h : isLone c = true) {before cs : List Char} :
    c ∈ lowerFrom before cs ↔ c ∈ cs := by
  have hsigmas : c ≠ finalSigma ∧ c ≠ capitalSigma := by
    constructor <;>
    · rintro rfl
      exact absurd h (by decide +kernel)
  induction cs generalizing before with
  | nil => rfl
  | cons d cs ih =>
      rw [lowerFrom, List.mem_append, List.mem_cons]
      refine or_congr ?_ ih
      split_ifs with hsigma
      · rw [List.mem_singleton, hsigma.1]
        exact iff_of_false hsigmas.1 hsigmas.2
      · exact mem_lowerChar_iff h

/-- Such a character is in the lower-cased text just if it is in the text. -/
theorem mem_lower_iff {c : Char} (h : isLone c = true) {cs : List Char} :
    c ∈ lower cs ↔ c ∈ cs := mem_lowerFrom_iff h

end BrowserFlow.Text
