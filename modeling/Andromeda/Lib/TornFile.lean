import Andromeda.Lib.Effect
import Mathlib.Data.List.Basic

/-!
# Files that a crash may tear

A file with a small head that the device writes in one piece and a body of
arbitrary length. `head` and `body` are what the process reads back; `heads` and
`stable` say what the device may hold: one of the head images written since the
last sync (or the synced one), and a body of which only the first `stable` bytes
are known. Every file operation takes its outcome from a list the environment
supplies: it succeeds, fails after part of its work, or the process dies in it.
-/

open List

/-- What ends a procedure early: an error it returns, or the death of the process. -/
inductive Interrupt (ε : Type) where
  | failed (e : ε)
  | crashed
deriving DecidableEq

structure TornFile where
  head : List UInt8
  heads : List (List UInt8)
  body : List UInt8
  stable : Nat
deriving DecidableEq

namespace TornFile

def ofParts (head body : List UInt8) : TornFile := ⟨head, [head], body, body.length⟩

def length (f : TornFile) : Nat := f.head.length + f.body.length

def writeHead (bytes : List UInt8) (f : TornFile) : TornFile :=
  { f with head := bytes, heads := f.heads ++ [bytes] }

/-- Overwrite the body from `off` on; a gap before `off` reads as zeros. -/
def writeBody (off : Nat) (bytes : List UInt8) (f : TornFile) : TornFile :=
  { f with
    body := f.body.take off ++ List.replicate (off - f.body.length) 0 ++ bytes
      ++ f.body.drop (off + bytes.length)
    stable := min f.stable off }

def setBodyLen (n : Nat) (f : TornFile) : TornFile :=
  { f with
    body := f.body.take n ++ List.replicate (n - f.body.length) 0
    stable := min f.stable n }

def sync (f : TornFile) : TornFile :=
  { f with heads := [f.head], stable := f.body.length }

/-- `head ++ body` may be on the device if the process dies now. -/
structure CrashImage (f : TornFile) (head body : List UInt8) : Prop where
  head : head ∈ f.heads
  body : f.body.take f.stable <+: body

variable {f : TornFile} {xs : List UInt8}

theorem prefix_writeBody (h : xs <+: f.body) (bytes : List UInt8) :
    xs ++ bytes <+: (f.writeBody xs.length bytes).body := by
  have htake : f.body.take xs.length = xs := (prefix_iff_eq_take.mp h).symm
  have hgap : xs.length - f.body.length = 0 := Nat.sub_eq_zero_of_le h.length_le
  rw [writeBody, htake, hgap, replicate_zero, append_nil]
  exact prefix_append _ _

theorem stable_writeBody_le (hstable : f.stable ≤ f.body.length) (off : Nat) (bytes : List UInt8) :
    (f.writeBody off bytes).stable ≤ (f.writeBody off bytes).body.length := by
  simp only [writeBody, length_append, length_take, length_replicate]
  omega

theorem setBodyLen_body (h : xs <+: f.body) : (f.setBodyLen xs.length).body = xs := by
  have hgap : xs.length - f.body.length = 0 := Nat.sub_eq_zero_of_le h.length_le
  rw [setBodyLen, hgap, replicate_zero, append_nil]
  exact (prefix_iff_eq_take.mp h).symm

theorem CrashImage.prefix_body {head body : List UInt8} (h : f.CrashImage head body)
    (hxs : xs <+: f.body) (hstable : xs.length ≤ f.stable) : xs <+: body := by
  have htake : xs <+: f.body.take f.stable := by
    rw [prefix_take_iff]
    exact ⟨hxs, hstable⟩
  exact htake.trans h.body

end TornFile

/-! ## Operations and their outcomes -/

/-- How the environment answers one file operation. `written` is how far an
operation got that did not finish. -/
inductive IoOutcome where
  | done
  | fail (written : Nat) (reason : String)
  | crash (written : Nat)
deriving DecidableEq

/-- A file together with the answers the environment will give; once the list is
used up, operations succeed. -/
structure Disk where
  file : TornFile
  outcomes : List IoOutcome
deriving DecidableEq

namespace Disk

variable {ε : Type}

def next (d : Disk) : IoOutcome := d.outcomes.headD .done

/-- One file operation: its whole effect, and its effect up to where it got. -/
def io (whole : TornFile → TornFile) (upTo : Nat → TornFile → TornFile) (describe : String → ε) :
    Effect Disk (Interrupt ε) Unit := fun d =>
  match d.next with
  | .done => (.ok (), ⟨whole d.file, d.outcomes.drop 1⟩)
  | .fail written reason =>
    (.error (.failed (describe reason)), ⟨upTo written d.file, d.outcomes.drop 1⟩)
  | .crash written => (.error .crashed, ⟨upTo written d.file, d.outcomes.drop 1⟩)

def seek (describe : String → ε) : Effect Disk (Interrupt ε) Unit :=
  io id (fun _ => id) describe

def writeHead (bytes : List UInt8) (describe : String → ε) : Effect Disk (Interrupt ε) Unit :=
  io (TornFile.writeHead bytes)
    (fun written f => if bytes.length ≤ written then f.writeHead bytes else f) describe

/-- A write past the largest offset of the file system is refused. -/
def writeBody (limit off : Nat) (bytes : List UInt8) (describe : String → ε) :
    Effect Disk (Interrupt ε) Unit :=
  if off + bytes.length ≤ limit then
    io (TornFile.writeBody off bytes)
      (fun written => TornFile.writeBody off (bytes.take written)) describe
  else Effect.lift (.error (.failed (describe "File too large (os error 27)")))

def setBodyLen (n : Nat) (describe : String → ε) : Effect Disk (Interrupt ε) Unit :=
  io (TornFile.setBodyLen n) (fun _ => id) describe

/-- A sync that does not finish promises nothing. -/
def sync (describe : String → ε) : Effect Disk (Interrupt ε) Unit :=
  io TornFile.sync (fun _ => id) describe

/-- Some operation is going to fail. -/
def Fails (d : Disk) : Prop := ∃ written reason, IoOutcome.fail written reason ∈ d.outcomes

variable {d : Disk}

theorem Fails.of_drop {file : TornFile} {n : Nat} (h : Fails ⟨file, d.outcomes.drop n⟩) :
    d.Fails := by
  obtain ⟨written, reason, hmem⟩ := h
  exact ⟨written, reason, mem_of_mem_drop hmem⟩

def Done (d : Disk) (n : Nat) : Prop := ∀ o ∈ d.outcomes.take n, o = .done
deriving Decidable

theorem done_add {m n : Nat} (file : TornFile) :
    d.Done (m + n) ↔ d.Done m ∧ Done ⟨file, d.outcomes.drop m⟩ n := by
  simp [Done, take_add, or_imp, forall_and]

theorem done_one : d.Done 1 ↔ d.next = .done := by
  unfold Done next
  cases d.outcomes <;> simp

variable {whole : TornFile → TornFile} {upTo : Nat → TornFile → TornFile} {describe : String → ε}
  {d' : Disk}

theorem io_cases {result : Except (Interrupt ε) Unit}
    (h : io whole upTo describe d = (result, d')) :
    (d.Done 1 ∧ result = .ok () ∧ d' = ⟨whole d.file, d.outcomes.drop 1⟩) ∨
      (¬ d.Done 1 ∧ ∃ e written, result = .error e ∧ (e = .crashed ∨ d.Fails) ∧
        d' = ⟨upTo written d.file, d.outcomes.drop 1⟩) := by
  rw [done_one]
  unfold io at h
  cases hnext : d.next with
  | done =>
    rw [hnext] at h
    cases h
    exact .inl ⟨rfl, rfl, rfl⟩
  | fail written reason =>
    have hmem : IoOutcome.fail written reason ∈ d.outcomes := by
      cases houtcomes : d.outcomes with
      | nil => simp [next, houtcomes] at hnext
      | cons o os =>
        have hhead : o = .fail written reason := by simpa [next, houtcomes] using hnext
        rw [hhead]
        exact mem_cons_self
    rw [hnext] at h
    cases h
    exact .inr ⟨by simp, _, written, rfl, .inr ⟨written, reason, hmem⟩, rfl⟩
  | crash written =>
    rw [hnext] at h
    cases h
    exact .inr ⟨by simp, _, written, rfl, .inl rfl, rfl⟩

theorem io_ok (h : io whole upTo describe d = (.ok (), d')) :
    d.Done 1 ∧ d' = ⟨whole d.file, d.outcomes.drop 1⟩ := by
  rcases io_cases h with ⟨hdone, -, hd⟩ | ⟨-, _, _, herror, -⟩
  · exact ⟨hdone, hd⟩
  · cases herror

theorem io_error {e : Interrupt ε} (h : io whole upTo describe d = (.error e, d')) :
    ¬ d.Done 1 ∧ (e = .crashed ∨ d.Fails) ∧
      ∃ written, d' = ⟨upTo written d.file, d.outcomes.drop 1⟩ := by
  rcases io_cases h with ⟨-, hok, -⟩ | ⟨hnot, _, written, herror, hwhy, hd⟩
  · cases hok
  · cases herror
    exact ⟨hnot, hwhy, written, hd⟩

end Disk
