import HypercoreAgent.PyDict
import HypercoreAgent.Manager
import Mathlib.Data.List.Sort
import Mathlib.Data.Rat.Floor
import Mathlib.Tactic.NormNum
import Mathlib.Tactic.Linarith

set_option autoImplicit false

namespace HypercoreAgent

/-- `TestResult`; `timestamp` is the `datetime.now()` every result is built with, in
    microseconds. -/
structure TestResult where
  success : Bool
  durationMs : ℚ
  statusCode : ℕ
  error : String
  timestamp : ℤ
  deriving DecidableEq, Repr

/-- Python's `sorted` on latencies: ascending; every sort gives this same list. -/
def sortLatencies (data : List ℚ) : List ℚ := data.insertionSort (· ≤ ·)

/-- `percentile(data, p)` in `analyze_results`. `int(len(sorted_data) * p)` truncates,
    which is `⌊len * p⌋₊` for the `p ≥ 0` it is called with. -/
def percentile (data : List ℚ) (p : ℚ) : ℚ :=
  if data = [] then 0
  else
    let sortedData := sortLatencies data
    let index := ⌊(sortedData.length : ℚ) * p⌋₊
    sortedData.getD (min index (sortedData.length - 1)) 0

/-- `statistics.median`, on the non-empty data it is called with. -/
def median (data : List ℚ) : ℚ :=
  let sortedData := sortLatencies data
  let n := sortedData.length
  if n % 2 = 1 then sortedData.getD (n / 2) 0
  else (sortedData.getD (n / 2 - 1) 0 + sortedData.getD (n / 2) 0) / 2

/-- The exact sum `statistics.mean` takes. -/
def exactSum : List ℚ → ℚ
  | [] => 0
  | x :: xs => x + exactSum xs

/-- `statistics.mean`, on the non-empty data it is called with. -/
def mean (data : List ℚ) : ℚ := exactSum data / data.length

/-- The `"latency"` dict; `stdev_ms` is left out. -/
structure LatencySummary where
  minMs : ℚ
  maxMs : ℚ
  meanMs : ℚ
  medianMs : ℚ
  p50Ms : ℚ
  p95Ms : ℚ
  p99Ms : ℚ
  deriving DecidableEq, Repr

/-- The `"latency"` dict over the successful requests' durations. -/
def latencySummary (durations : List ℚ) : LatencySummary where
  minMs := durations.min?.getD 0
  maxMs := durations.max?.getD 0
  meanMs := if durations = [] then 0 else mean durations
  medianMs := if durations = [] then 0 else median durations
  p50Ms := percentile durations 0.50
  p95Ms := percentile durations 0.95
  p99Ms := percentile durations 0.99

def errorTypes (failed : List TestResult) : PyDict ℕ :=
  failed.foldl (fun errors r => errors.increment (r.error.take 50)) PyDict.empty

def timeSpan (first last : TestResult) : ℚ :=
  ((last.timestamp - first.timestamp : ℤ) : ℚ) / 1000000

structure Analysis where
  totalRequests : ℕ
  successful : ℕ
  failed : ℕ
  successRate : ℚ
  throughputReqSec : ℚ
  latency : LatencySummary
  errors : PyDict ℕ

inductive AnalysisOutcome
  | error (message : String)
  | report (analysis : Analysis)

def analyzeResults : List TestResult → AnalysisOutcome
  | [] => .error "No results to analyze"
  | first :: rest =>
    let results := first :: rest
    let successful := results.filter (·.success)
    let failed := results.filter (!·.success)
    let totalRequests := results.length
    let successRate : ℚ :=
      if 0 < totalRequests then (successful.length : ℚ) / totalRequests * 100 else 0
    let timeSpan := timeSpan first (results.getLast (List.cons_ne_nil first rest))
    let throughput : ℚ := if 0 < timeSpan then totalRequests / timeSpan else 0
    .report
      { totalRequests
        successful := successful.length
        failed := failed.length
        successRate
        throughputReqSec := throughput
        latency := latencySummary (successful.map (·.durationMs))
        errors := errorTypes failed }

structure Check where
  name : String
  actual : ℚ
  op : String
  expected : ℚ
  unit : String

def Check.passed (c : Check) : Bool :=
  if c.op = ">=" then decide (c.actual ≥ c.expected)
  else if c.op = "<" then decide (c.actual < c.expected)
  else if c.op = ">" then decide (c.actual > c.expected)
  else false

def reportChecks (analysis : Analysis) : List Check :=
  [⟨"Success Rate", analysis.successRate, ">=", 95.0, "%"⟩,
   ⟨"p95 Latency", analysis.latency.p95Ms, "<", 5000, "ms"⟩,
   ⟨"p99 Latency", analysis.latency.p99Ms, "<", 10000, "ms"⟩,
   ⟨"Throughput", analysis.throughputReqSec, ">", 10, "req/sec"⟩]

def allPassed (checks : List Check) : Bool :=
  checks.foldl (fun allPassed c => allPassed && c.passed) true

def printReport : AnalysisOutcome → Except PyException Bool
  | .error _ => .error (.error "KeyError" "'total_requests'")
  | .report analysis => .ok (allPassed (reportChecks analysis))

section Sorted
variable {l : List ℚ} {i j k : ℕ}

theorem getD_mem (hk : k < l.length) : l.getD k 0 ∈ l := by
  rw [List.getD_eq_getElem _ _ hk]
  exact List.getElem_mem hk

theorem getD_le_getD_of_sorted (hs : l.Sorted (· ≤ ·)) (hij : i ≤ j) (hj : j < l.length) :
    l.getD i 0 ≤ l.getD j 0 := by
  rw [List.getD_eq_getElem _ _ (hij.trans_lt hj), List.getD_eq_getElem _ _ hj]
  exact hs.rel_get_of_le (a := ⟨i, hij.trans_lt hj⟩) (b := ⟨j, hj⟩) hij

theorem getD_lt_iff_of_sorted (hs : l.Sorted (· ≤ ·)) (hk : k < l.length) (T : ℚ) :
    l.getD k 0 < T ↔ k < l.countP (· < T) := by
  induction l generalizing k with
  | nil => exact absurd hk (Nat.not_lt_zero _)
  | cons a l ih =>
    obtain ⟨ha, hs⟩ := List.sorted_cons.mp hs
    by_cases haT : a < T
    · cases k with
      | zero =>
        rw [List.getD_cons_zero, List.countP_cons, if_pos (decide_eq_true haT)]
        exact iff_of_true haT (Nat.succ_pos _)
      | succ k =>
        rw [List.getD_cons_succ, List.countP_cons, if_pos (decide_eq_true haT),
          ih hs (by simpa using hk)]
        omega
    · have hge : T ≤ (a :: l).getD k 0 := by
        rcases List.mem_cons.mp (getD_mem hk) with he | hmem
        · rw [he]
          exact not_lt.mp haT
        · exact (not_lt.mp haT).trans (ha _ hmem)
      have h0 : l.countP (· < T) = 0 :=
        List.countP_eq_zero.mpr fun b hb => by
          simpa using (not_lt.mp haT).trans (ha b hb)
      rw [List.countP_cons, if_neg (by simpa using haT), h0]
      exact iff_of_false (not_lt.mpr hge) (Nat.not_lt_zero _)

end Sorted

section Latencies
variable {data : List ℚ}

theorem sorted_sortLatencies (data : List ℚ) : (sortLatencies data).Sorted (· ≤ ·) :=
  List.sorted_insertionSort _ data

theorem perm_sortLatencies (data : List ℚ) : (sortLatencies data).Perm data :=
  List.perm_insertionSort _ data

@[simp] theorem length_sortLatencies (data : List ℚ) : (sortLatencies data).length = data.length :=
  (perm_sortLatencies data).length_eq

theorem percentile_of_ne_nil (hd : data ≠ []) (p : ℚ) :
    percentile data p =
      (sortLatencies data).getD (min ⌊(data.length : ℚ) * p⌋₊ (data.length - 1)) 0 := by
  simp only [percentile, hd, if_false, length_sortLatencies]

theorem percentile_mem (hd : data ≠ []) (p : ℚ) : percentile data p ∈ data := by
  have hlen : 0 < data.length := List.length_pos.mpr hd
  rw [percentile_of_ne_nil hd, ← (perm_sortLatencies data).mem_iff]
  exact getD_mem (by simp only [length_sortLatencies]; omega)

theorem percentile_mono (hd : data ≠ []) {p q : ℚ} (hpq : p ≤ q) :
    percentile data p ≤ percentile data q := by
  have hlen : 0 < data.length := List.length_pos.mpr hd
  have hfloor : ⌊(data.length : ℚ) * p⌋₊ ≤ ⌊(data.length : ℚ) * q⌋₊ :=
    Nat.floor_le_floor (mul_le_mul_of_nonneg_left hpq (Nat.cast_nonneg _))
  rw [percentile_of_ne_nil hd, percentile_of_ne_nil hd]
  exact getD_le_getD_of_sorted (sorted_sortLatencies data) (min_le_min_right _ hfloor)
    (by simp only [length_sortLatencies]; omega)

theorem percentile_lt_iff (hd : data ≠ []) {p : ℚ} (hp : 0 ≤ p) (hp1 : p < 1) (T : ℚ) :
    percentile data p < T ↔ (data.length : ℚ) * p < data.countP (· < T) := by
  have hlen : 0 < data.length := List.length_pos.mpr hd
  have hnp : 0 ≤ (data.length : ℚ) * p := mul_nonneg (Nat.cast_nonneg _) hp
  have hindex : ⌊(data.length : ℚ) * p⌋₊ < data.length := by
    rw [Nat.floor_lt hnp]
    exact mul_lt_of_lt_one_right (Nat.cast_pos.mpr hlen) hp1
  rw [percentile_of_ne_nil hd, min_eq_left (by omega),
    getD_lt_iff_of_sorted (sorted_sortLatencies data) (by simpa using hindex),
    (perm_sortLatencies data).countP_eq, Nat.floor_lt hnp]

theorem percentile_eq_last (hd : data ≠ []) {p : ℚ} (hp : (data.length : ℚ) - 1 ≤ data.length * p) :
    percentile data p = (sortLatencies data).getD (data.length - 1) 0 := by
  have hlen : 0 < data.length := List.length_pos.mpr hd
  have hfloor : data.length - 1 ≤ ⌊(data.length : ℚ) * p⌋₊ :=
    Nat.le_floor (by rw [Nat.cast_sub hlen]; simpa using hp)
  rw [percentile_of_ne_nil hd, min_eq_right hfloor]

theorem min?_le_of_mem {m x : ℚ} (hm : data.min? = some m) (hx : x ∈ data) : m ≤ x :=
  (List.le_min?_iff (fun _ _ _ => le_min_iff) hm).mp le_rfl x hx

theorem le_max?_of_mem {m x : ℚ} (hm : data.max? = some m) (hx : x ∈ data) : x ≤ m :=
  (List.max?_le_iff (fun _ _ _ => max_le_iff) hm).mp le_rfl x hx

theorem min?_getD_eq (hd : data ≠ []) : data.min?.getD 0 = (sortLatencies data).getD 0 0 := by
  have hlen : 0 < data.length := List.length_pos.mpr hd
  have hfirst := (perm_sortLatencies data).mem_iff.mp (getD_mem (l := sortLatencies data)
    (k := 0) (by simpa using hlen))
  cases hm : data.min? with
  | none => exact absurd (List.min?_eq_none_iff.mp hm) hd
  | some m =>
    refine le_antisymm (min?_le_of_mem hm hfirst) ?_
    obtain ⟨i, hi, rfl⟩ := List.mem_iff_getElem.mp
      ((perm_sortLatencies data).mem_iff.mpr (List.min?_mem min_choice hm))
    rw [← List.getD_eq_getElem _ 0 hi]
    exact getD_le_getD_of_sorted (sorted_sortLatencies data) (Nat.zero_le i) hi

theorem max?_getD_eq (hd : data ≠ []) :
    data.max?.getD 0 = (sortLatencies data).getD (data.length - 1) 0 := by
  have hlen : 0 < data.length := List.length_pos.mpr hd
  have hlast := (perm_sortLatencies data).mem_iff.mp (getD_mem (l := sortLatencies data)
    (k := data.length - 1) (by simp only [length_sortLatencies]; omega))
  cases hm : data.max? with
  | none => exact absurd (List.max?_eq_none_iff.mp hm) hd
  | some m =>
    refine le_antisymm ?_ (le_max?_of_mem hm hlast)
    obtain ⟨i, hi, rfl⟩ := List.mem_iff_getElem.mp
      ((perm_sortLatencies data).mem_iff.mpr (List.max?_mem max_choice hm))
    rw [← List.getD_eq_getElem _ 0 hi]
    exact getD_le_getD_of_sorted (sorted_sortLatencies data)
      (by simp only [length_sortLatencies] at hi; omega)
      (by simp only [length_sortLatencies]; omega)

theorem exactSum_bounds {a b : ℚ} (h : ∀ x ∈ data, a ≤ x ∧ x ≤ b) :
    data.length * a ≤ exactSum data ∧ exactSum data ≤ data.length * b := by
  induction data with
  | nil => simp [exactSum]
  | cons x xs ih =>
    obtain ⟨hax, hxb⟩ := h x (List.mem_cons_self x xs)
    obtain ⟨hlo, hhi⟩ := ih fun y hy => h y (List.mem_cons_of_mem x hy)
    simp only [exactSum, List.length_cons, Nat.cast_succ]
    exact ⟨by linarith only [hax, hlo], by linarith only [hxb, hhi]⟩

theorem mean_bounds (hd : data ≠ []) {a b : ℚ} (h : ∀ x ∈ data, a ≤ x ∧ x ≤ b) :
    a ≤ mean data ∧ mean data ≤ b := by
  have hn : (0 : ℚ) < data.length := Nat.cast_pos.mpr (List.length_pos.mpr hd)
  obtain ⟨hlo, hhi⟩ := exactSum_bounds h
  exact ⟨(le_div_iff₀ hn).mpr (by linarith only [hlo]),
    (div_le_iff₀ hn).mpr (by linarith only [hhi])⟩

theorem floor_mul_half (n : ℕ) : ⌊(n : ℚ) * 0.50⌋₊ = n / 2 := by
  rw [show (n : ℚ) * 0.50 = (n : ℚ) / (2 : ℕ) by norm_num [div_eq_mul_inv]]
  exact Nat.floor_div_eq_div n 2

theorem median_bounds (hd : data ≠ []) :
    (sortLatencies data).getD 0 0 ≤ median data ∧ median data ≤ percentile data 0.50 := by
  have hlen : 0 < data.length := List.length_pos.mpr hd
  have hs := sorted_sortLatencies data
  have hmid : data.length / 2 < (sortLatencies data).length := by
    simp only [length_sortLatencies]; omega
  have hp50 : percentile data 0.50 = (sortLatencies data).getD (data.length / 2) 0 := by
    rw [percentile_of_ne_nil hd, floor_mul_half, min_eq_left (by omega)]
  have h0 := getD_le_getD_of_sorted hs (Nat.zero_le _) hmid
  unfold median
  simp only [length_sortLatencies, hp50]
  split
  · exact ⟨h0, le_rfl⟩
  · have hlow := getD_le_getD_of_sorted hs (Nat.sub_le (data.length / 2) 1) hmid
    have h0' := getD_le_getD_of_sorted hs (Nat.zero_le _) ((Nat.sub_le _ 1).trans_lt hmid)
    exact ⟨by linarith only [h0, h0'], by linarith only [hlow]⟩

/-- Over any non-empty latencies, `min ≤ median ≤ p50 ≤ p95 ≤ p99 ≤ max`, the mean lies
    between min and max, and for at most 100 (20) latencies the p99 (p95) is the maximum. -/
theorem latency_summary_ordered (durations : List ℚ) (hd : durations ≠ []) :
    (latencySummary durations).minMs ≤ (latencySummary durations).medianMs ∧
      (latencySummary durations).medianMs ≤ (latencySummary durations).p50Ms ∧
      (latencySummary durations).p50Ms ≤ (latencySummary durations).p95Ms ∧
      (latencySummary durations).p95Ms ≤ (latencySummary durations).p99Ms ∧
      (latencySummary durations).p99Ms ≤ (latencySummary durations).maxMs ∧
      (latencySummary durations).minMs ≤ (latencySummary durations).meanMs ∧
      (latencySummary durations).meanMs ≤ (latencySummary durations).maxMs ∧
      (durations.length ≤ 100 →
        (latencySummary durations).p99Ms = (latencySummary durations).maxMs) ∧
      (durations.length ≤ 20 →
        (latencySummary durations).p95Ms = (latencySummary durations).maxMs) := by
  have hlen : 0 < durations.length := List.length_pos.mpr hd
  have hs := sorted_sortLatencies durations
  have hrange : ∀ x ∈ durations, (sortLatencies durations).getD 0 0 ≤ x ∧
      x ≤ (sortLatencies durations).getD (durations.length - 1) 0 := by
    intro x hx
    obtain ⟨i, hi, rfl⟩ := List.mem_iff_getElem.mp ((perm_sortLatencies durations).mem_iff.mpr hx)
    rw [← List.getD_eq_getElem _ 0 hi]
    simp only [length_sortLatencies] at hi
    exact ⟨getD_le_getD_of_sorted hs (Nat.zero_le i) (by simpa using hi),
      getD_le_getD_of_sorted hs (by omega) (by simp only [length_sortLatencies]; omega)⟩
  have hmedian := median_bounds hd
  have hn : (0 : ℚ) < durations.length := Nat.cast_pos.mpr hlen
  simp only [latencySummary, hd, if_false, min?_getD_eq hd, max?_getD_eq hd]
  refine ⟨hmedian.1, hmedian.2, percentile_mono hd (by norm_num),
    percentile_mono hd (by norm_num), (hrange _ (percentile_mem hd _)).2,
    (mean_bounds hd hrange).1, (mean_bounds hd hrange).2, fun h100 => ?_, fun h20 => ?_⟩
  · have h : (durations.length : ℚ) ≤ 100 := by exact_mod_cast h100
    exact percentile_eq_last hd (by linarith only [h])
  · have h : (durations.length : ℚ) ≤ 20 := by exact_mod_cast h20
    exact percentile_eq_last hd (by linarith only [h])

theorem latency_summary_ordered_two :
    ([80, 120] : List ℚ) ≠ [] ∧
      (latencySummary [80, 120]).p99Ms = (latencySummary [80, 120]).maxMs :=
  ⟨by decide, (latency_summary_ordered [80, 120] (by decide)).2.2.2.2.2.2.2.1 (by decide)⟩

end Latencies

section Report

theorem allPassed_reportChecks (analysis : Analysis) :
    allPassed (reportChecks analysis) = true ↔
      95 ≤ analysis.successRate ∧ analysis.latency.p95Ms < 5000 ∧
        analysis.latency.p99Ms < 10000 ∧ 10 < analysis.throughputReqSec := by
  simp [allPassed, reportChecks, Check.passed, and_assoc, show (95.0 : ℚ) = 95 by norm_num]

theorem percentile_lt_iff_count {data : List ℚ} (hd : data ≠ []) {q : ℚ} (num den : ℕ)
    (hq : q = num / den) (hden : 0 < den) (hq1 : q < 1) (T : ℚ) :
    percentile data q < T ↔ num * data.length < den * data.countP (· < T) := by
  have hden' : (0 : ℚ) < den := Nat.cast_pos.mpr hden
  rw [percentile_lt_iff hd (by rw [hq]; positivity) hq1, hq, ← @Nat.cast_lt ℚ]
  push_cast
  rw [mul_div_assoc', div_lt_iff₀ hden']
  constructor <;> intro h <;> linarith only [h]

/-- "ALL CHECKS PASSED" exactly when at least 95% of the requests succeeded, more than 95%
    of the successful ones took under 5000 ms and more than 99% under 10000 ms, and the
    results span a positive time with more than 10 of them per second. With no results,
    `print_report` raises `KeyError: 'total_requests'`. -/
theorem load_test_verdict (first : TestResult) (rest : List TestResult) :
    printReport (analyzeResults []) = .error (.error "KeyError" "'total_requests'") ∧
    (printReport (analyzeResults (first :: rest)) = .ok true ↔
      let results := first :: rest
      let durations := (results.filter (·.success)).map (·.durationMs)
      let span := timeSpan first (results.getLast (List.cons_ne_nil first rest))
      95 * results.length ≤ 100 * durations.length ∧
        19 * durations.length < 20 * durations.countP (· < 5000) ∧
        99 * durations.length < 100 * durations.countP (· < 10000) ∧
        0 < span ∧ 10 * span < results.length) := by
  refine ⟨rfl, ?_⟩
  have hpos := List.length_pos.mpr (List.cons_ne_nil first rest)
  have hn : (0 : ℚ) < (first :: rest).length := Nat.cast_pos.mpr hpos
  simp only [printReport, analyzeResults, Except.ok.injEq, allPassed_reportChecks, latencySummary,
    if_pos hpos]
  generalize (first :: rest).filter (·.success) = successful
  generalize timeSpan first _ = span
  have hrate : 95 ≤ (successful.length : ℚ) / (first :: rest).length * 100 ↔
      95 * (first :: rest).length ≤ 100 * successful.length := by
    rw [div_mul_eq_mul_div, le_div_iff₀ hn, ← @Nat.cast_le ℚ]
    push_cast
    constructor <;> intro h <;> linarith only [h]
  have hthroughput : 10 < (if 0 < span then ((first :: rest).length : ℚ) / span else 0) ↔
      0 < span ∧ 10 * span < (first :: rest).length := by
    split
    · next hspan => rw [lt_div_iff₀ hspan, mul_comm]; exact (and_iff_right hspan).symm
    · next hspan => exact iff_of_false (by norm_num) fun h => hspan h.1
  rw [hrate, hthroughput, List.length_map]
  by_cases hd : successful = []
  · subst hd
    have hnone : ¬95 * (first :: rest).length ≤ 100 * ([] : List TestResult).length := by simp
    exact iff_of_false (fun h => hnone h.1) (fun h => hnone h.1)
  · have hd' : successful.map (·.durationMs) ≠ [] := by simpa using hd
    rw [percentile_lt_iff_count hd' 19 20 (by norm_num) (by norm_num)
      (by norm_num), percentile_lt_iff_count hd' 99 100 (by norm_num)
      (by norm_num) (by norm_num), List.length_map]

end Report

end HypercoreAgent
