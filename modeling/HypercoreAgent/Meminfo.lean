import Mathlib.Data.Nat.Digits

set_option autoImplicit false

namespace HypercoreAgent

/-- `OSError(errno, strerror)`. -/
structure OSError where
  errno : ℕ
  strerror : String
  deriving DecidableEq, Repr

/-- The `st_*` keys of the dict `getattr` returns. -/
structure FileAttr where
  stMode : ℕ
  stNlink : ℕ
  stSize : ℕ
  stCtime : ℤ
  stMtime : ℤ
  stAtime : ℤ
  deriving DecidableEq, Repr

/-- `stat.S_IFREG`. -/
def sIFREG : ℕ := 0o100000

/-- `str.encode('utf-8')`: the bytes of `String.toUTF8`. -/
def encodeUtf8 (s : String) : List UInt8 := s.toUTF8.data.toList

def meminfoBuf (limitKb : String) : String :=
  "MemTotal:       " ++ limitKb ++ " kB\n" ++
  "MemFree:        " ++ limitKb ++ " kB\n" ++
  "MemAvailable:   " ++ limitKb ++ " kB\n" ++
  "Buffers:        0 kB\n" ++
  "Cached:         0 kB\n" ++
  "SwapCached:     0 kB\n" ++
  "Active:         0 kB\n" ++
  "Inactive:       0 kB\n" ++
  "Active(anon):   0 kB\n" ++
  "Inactive(anon): 0 kB\n" ++
  "Active(file):   0 kB\n" ++
  "Inactive(file): 0 kB\n" ++
  "Unevictable:    0 kB\n" ++
  "Mlocked:        0 kB\n" ++
  "SwapTotal:      0 kB\n" ++
  "SwapFree:       0 kB\n" ++
  "Dirty:          0 kB\n" ++
  "Writeback:      0 kB\n" ++
  "AnonPages:      0 kB\n" ++
  "Mapped:         0 kB\n" ++
  "Shmem:          0 kB\n" ++
  "Slab:           0 kB\n" ++
  "SReclaimable:   0 kB\n" ++
  "SUnreclaim:     0 kB\n" ++
  "KernelStack:    0 kB\n" ++
  "PageTables:     0 kB\n" ++
  "NFS_Unstable:   0 kB\n" ++
  "Bounce:         0 kB\n" ++
  "WritebackTmp:   0 kB\n" ++
  "CommitLimit:    " ++ limitKb ++ " kB\n" ++
  "Committed_AS:   0 kB\n" ++
  "VmallocTotal:   0 kB\n" ++
  "VmallocUsed:    0 kB\n" ++
  "VmallocChunk:   0 kB\n" ++
  "HardwareCorrupted: 0 kB\n" ++
  "AnonHugePages:  0 kB\n" ++
  "HugePages_Total: 0\n" ++
  "HugePages_Free:  0\n" ++
  "HugePages_Rsvd:  0\n" ++
  "HugePages_Surp:  0\n" ++
  "Hugepagesize:    2048 kB\n" ++
  "DirectMap4k:     0 kB\n" ++
  "DirectMap2M:     0 kB\n" ++
  "DirectMap1G:     0 kB\n"

structure MeminfoFS where
  limitKb : ℤ
  startTime : ℤ
  deriving DecidableEq, Repr

namespace MeminfoFS

def init (limitMb now : ℤ) : MeminfoFS := ⟨limitMb * 1024, now⟩

def getattr (fs : MeminfoFS) (path : String) : Except OSError FileAttr :=
  if path = "/meminfo" then
    .ok ⟨sIFREG ||| 0o444, 1, 1024, fs.startTime, fs.startTime, fs.startTime⟩
  else .error ⟨2, "No such file or directory"⟩

def readdir (path : String) : List String :=
  if path = "/" then [".", "..", "meminfo"] else []

def «open» (path : String) : Except OSError ℕ :=
  if path = "/meminfo" then .ok 0 else .error ⟨2, "No such file or directory"⟩

def data (fs : MeminfoFS) : List UInt8 := encodeUtf8 (meminfoBuf (toString fs.limitKb))

def read (fs : MeminfoFS) (path : String) (size offset : ℕ) : List UInt8 :=
  if path ≠ "/meminfo" then [] else (fs.data.drop offset).take size

end MeminfoFS

section Utf8

theorem utf8ByteSize_append (s t : String) :
    (s ++ t).utf8ByteSize = s.utf8ByteSize + t.utf8ByteSize := by
  have go : ∀ l₁ l₂ : List Char, String.utf8ByteSize.go (l₁ ++ l₂) =
      String.utf8ByteSize.go l₁ + String.utf8ByteSize.go l₂ := by
    intro l₁ l₂
    induction l₁ with
    | nil => simp [String.utf8ByteSize.go]
    | cons c cs ih =>
      show String.utf8ByteSize.go (cs ++ l₂) + c.utf8Size =
        String.utf8ByteSize.go cs + c.utf8Size + String.utf8ByteSize.go l₂
      rw [ih]
      omega
  exact go s.data t.data

theorem length_encodeUtf8 (s : String) : (encodeUtf8 s).length = s.utf8ByteSize := by
  rw [encodeUtf8, Array.length_toList]
  exact String.size_toUTF8 s

theorem utf8ByteSize_of_ascii {s : String} (h : ∀ c ∈ s.data, c.utf8Size = 1) :
    s.utf8ByteSize = s.length := by
  obtain ⟨l⟩ := s
  show String.utf8ByteSize.go l = l.length
  induction l with
  | nil => rfl
  | cons c cs ih =>
    simp only [List.mem_cons, forall_eq_or_imp] at h
    simp only [String.utf8ByteSize.go, List.length_cons, ih h.2, h.1]

theorem utf8Size_ite {p : Prop} [Decidable p] {a b : Char} (ha : a.utf8Size = 1)
    (hb : b.utf8Size = 1) : (if p then a else b).utf8Size = 1 := by
  split
  · exact ha
  · exact hb

theorem utf8Size_digitChar (n : ℕ) : (Nat.digitChar n).utf8Size = 1 := by
  unfold Nat.digitChar
  repeat refine utf8Size_ite rfl ?_
  rfl

theorem ascii_toDigitsCore (base fuel n : ℕ) {ds : List Char} (hds : ∀ c ∈ ds, c.utf8Size = 1) :
    ∀ c ∈ Nat.toDigitsCore base fuel n ds, c.utf8Size = 1 := by
  induction fuel generalizing n ds with
  | zero => exact hds
  | succ fuel ih =>
    have hcons : ∀ c ∈ Nat.digitChar (n % base) :: ds, c.utf8Size = 1 := by
      simpa only [List.mem_cons, forall_eq_or_imp] using ⟨utf8Size_digitChar _, hds⟩
    simp only [Nat.toDigitsCore]
    split
    · exact hcons
    · exact ih _ hcons

theorem ascii_toString_int (k : ℤ) : ∀ c ∈ (toString k).data, c.utf8Size = 1 := by
  have hnat : ∀ m : ℕ, ∀ c ∈ (toString m).data, c.utf8Size = 1 := fun m =>
    ascii_toDigitsCore 10 (m + 1) m (fun _ h => absurd h (List.not_mem_nil _))
  cases k with
  | ofNat m => exact hnat m
  | negSucc m =>
    intro c hc
    rcases List.mem_cons.mp hc with rfl | hc
    · rfl
    · exact hnat _ c hc

theorem utf8ByteSize_meminfoBuf (limitKb : String) :
    (meminfoBuf limitKb).utf8ByteSize = 922 + 4 * limitKb.utf8ByteSize := by
  have base : (meminfoBuf "").utf8ByteSize = 922 := by
    simp only [meminfoBuf, utf8ByteSize_append, -String.reduceAppend]
    decide
  have affine : (meminfoBuf limitKb).utf8ByteSize =
      (meminfoBuf "").utf8ByteSize + 4 * limitKb.utf8ByteSize := by
    simp only [meminfoBuf, utf8ByteSize_append, -String.reduceAppend,
      show "".utf8ByteSize = 0 from rfl]
    omega
  omega

end Utf8

section FileSystem
variable (fs : MeminfoFS)

theorem MeminfoFS.length_data : fs.data.length = 922 + 4 * (toString fs.limitKb).length := by
  rw [MeminfoFS.data, length_encodeUtf8, utf8ByteSize_meminfoBuf,
    utf8ByteSize_of_ascii (ascii_toString_int _)]

theorem MeminfoFS.read_of_ne {path : String} (h : path ≠ "/meminfo") (size offset : ℕ) :
    fs.read path size offset = [] := by
  simp [MeminfoFS.read, h]

theorem MeminfoFS.read_meminfo (size offset : ℕ) :
    fs.read "/meminfo" size offset = (fs.data.drop offset).take size := by
  simp [MeminfoFS.read]

/-- Whatever `limit_mb` the filesystem is started with, `getattr` reports a size of 1024
    bytes. The text `read` serves is 922 bytes plus four copies of `str(limit_kb)`. Reading
    the reported size from offset 0 returns the whole text exactly when `str(limit_kb)` has
    at most 25 characters. -/
theorem meminfo_size_within_st_size (limitMb now : ℤ) :
    let fs : MeminfoFS := MeminfoFS.init limitMb now
    (fs.getattr "/meminfo").map FileAttr.stSize = .ok 1024 ∧
    fs.data.length = 922 + 4 * (toString (limitMb * 1024)).length ∧
    (fs.read "/meminfo" 1024 0 = fs.data ↔ (toString (limitMb * 1024)).length ≤ 25) := by
  intro fs
  have hlen : fs.data.length = 922 + 4 * (toString (limitMb * 1024)).length := fs.length_data
  refine ⟨by simp [fs, MeminfoFS.getattr, Except.map], hlen, ?_⟩
  rw [fs.read_meminfo, List.drop_zero]
  constructor
  · intro h
    have := congrArg List.length h
    rw [List.length_take] at this
    omega
  · exact fun h => List.take_of_length_le (by omega)

end FileSystem

end HypercoreAgent
