import Mathlib.Data.List.Basic
import Mathlib.Data.List.TakeDrop

/-!
# Byte streams that arrive in pieces

A stream reaches its reader as a list of pieces of any sizes, followed by an ending. Reading an
exact number of bytes gathers pieces until it has them; how the stream was cut is not observable:
what is read, and whether it is read at all, depends only on the bytes and the ending.
-/

namespace ByteStream

variable {ε α : Type*}

/-- The outcome of an asynchronous call: done, or still waiting. -/
inductive Poll (α : Type*)
  | ready (a : α)
  | pending
deriving DecidableEq, Repr

/-- What one read delivers: at least one byte. -/
structure Piece where
  head : UInt8
  tail : List UInt8
deriving DecidableEq, Repr

/-- The bytes of a piece. -/
def Piece.bytes (p : Piece) : List UInt8 := p.head :: p.tail

/-- What follows the last piece: the end of the stream, a failing read, or nothing so far. -/
inductive Ending (ε : Type*)
  | eof
  | fails (e : ε)
  | pending
deriving DecidableEq, Repr

/-- A stream as it reaches its reader. -/
structure Source (ε : Type*) where
  pieces : List Piece
  ending : Ending ε
deriving DecidableEq, Repr

/-- All bytes of some pieces. -/
def joined (pieces : List Piece) : List UInt8 := pieces.flatMap Piece.bytes

/-- The bytes of the stream. -/
def Source.bytes (s : Source ε) : List UInt8 := joined s.pieces

/-- Take up to `n` bytes off the front of the pieces. A piece that is longer keeps its rest. -/
def fill : (n : ℕ) → List Piece → List UInt8 × List Piece
  | 0, pieces => ([], pieces)
  | _ + 1, [] => ([], [])
  | n + 1, p :: pieces =>
      match p.bytes.drop (n + 1) with
      | [] =>
          let more := fill (n + 1 - p.bytes.length) pieces
          (p.bytes ++ more.1, more.2)
      | b :: bs => (p.bytes.take (n + 1), ⟨b, bs⟩ :: pieces)

/-- The stream without its first `n` bytes. -/
def Source.skip (s : Source ε) (n : ℕ) : Source ε := { s with pieces := (fill n s.pieces).2 }

/-- What a read gives that ran out of bytes, `eof` being the error for the end of the stream. -/
def Ending.outcome (eof : ε) : Ending ε → Poll (Except ε α)
  | .eof => .ready (.error eof)
  | .fails e => .ready (.error e)
  | .pending => .pending

/-- Read exactly `n` bytes. A short stream ends the read, with the bytes it had lost. -/
def readExact (eof : ε) (n : ℕ) (s : Source ε) : Poll (Except ε (List UInt8)) × Source ε :=
  let filled := fill n s.pieces
  let rest : Source ε := { s with pieces := filled.2 }
  if filled.1.length = n then (.ready (.ok filled.1), rest) else (s.ending.outcome eof, rest)

/-! ## Only the bytes and the ending matter -/

@[simp] theorem joined_nil : joined [] = [] := rfl

@[simp] theorem joined_cons (p : Piece) (pieces : List Piece) :
    joined (p :: pieces) = p.bytes ++ joined pieces := by simp [joined]

/-- A read takes as much as it asks for, if there is so much. -/
theorem fill_fst : (n : ℕ) → (pieces : List Piece) → (fill n pieces).1 = (joined pieces).take n
  | 0, pieces => by simp [fill]
  | n + 1, [] => by simp [fill]
  | n + 1, p :: pieces => by
      rw [fill, joined_cons]
      split
      next hdrop =>
        have hlen : p.bytes.length ≤ n + 1 := List.drop_eq_nil_iff.mp hdrop
        show p.bytes ++ (fill (n + 1 - p.bytes.length) pieces).1 = _
        rw [fill_fst, List.take_append, List.take_of_length_le hlen]
      next b bs hdrop =>
        have hlen : n + 1 ≤ p.bytes.length := by
          by_contra hlt
          rw [List.drop_eq_nil_iff.mpr (by omega)] at hdrop
          cases hdrop
        rw [List.take_append_of_le_length hlen]

/-- The rest stays. -/
theorem joined_fill_snd : (n : ℕ) → (pieces : List Piece) →
    joined (fill n pieces).2 = (joined pieces).drop n
  | 0, pieces => by simp [fill]
  | n + 1, [] => by simp [fill]
  | n + 1, p :: pieces => by
      rw [fill, joined_cons]
      split
      next hdrop =>
        show joined (fill (n + 1 - p.bytes.length) pieces).2 = _
        rw [joined_fill_snd, List.drop_append, hdrop, List.nil_append]
      next b bs hdrop =>
        have hlen : n + 1 ≤ p.bytes.length := by
          by_contra hlt
          rw [List.drop_eq_nil_iff.mpr (by omega)] at hdrop
          cases hdrop
        rw [List.drop_append_of_le_length hlen, joined_cons, hdrop, Piece.bytes]

/-- What is skipped is gone. -/
@[simp] theorem Source.bytes_skip (s : Source ε) (n : ℕ) : (s.skip n).bytes = s.bytes.drop n :=
  joined_fill_snd n s.pieces

@[simp] theorem Source.ending_skip (s : Source ε) (n : ℕ) : (s.skip n).ending = s.ending := rfl

/-- **Reading exactly `n` bytes.** It succeeds if and only if the stream has them, however it is
cut, and gives the first `n`. -/
theorem readExact_eq (eof : ε) (n : ℕ) (s : Source ε) :
    readExact eof n s =
      (if n ≤ s.bytes.length then .ready (.ok (s.bytes.take n)) else s.ending.outcome eof,
        s.skip n) := by
  have hfst : (fill n s.pieces).1 = s.bytes.take n := fill_fst n s.pieces
  have hiff : (s.bytes.take n).length = n ↔ n ≤ s.bytes.length := by
    rw [List.length_take]
    omega
  simp only [readExact, hfst, hiff]
  split <;> rfl

/-- A read of what is there succeeds. -/
theorem readExact_of_le (eof : ε) {n : ℕ} {s : Source ε} (h : n ≤ s.bytes.length) :
    readExact eof n s = (.ready (.ok (s.bytes.take n)), s.skip n) := by
  rw [readExact_eq, if_pos h]

/-- A read of more ends as the stream does. -/
theorem readExact_of_lt (eof : ε) {n : ℕ} {s : Source ε} (h : s.bytes.length < n) :
    readExact eof n s = (s.ending.outcome eof, s.skip n) := by
  rw [readExact_eq, if_neg (by omega)]

/-- On a stream that ends, every read returns. -/
theorem exists_readExact_ready (eof : ε) (n : ℕ) {s : Source ε} (h : s.ending = .eof) :
    ∃ result, readExact eof n s = (.ready result, s.skip n) := by
  rw [readExact_eq, h]
  split
  · exact ⟨_, rfl⟩
  · exact ⟨_, rfl⟩

/-- The end of a stream is no value. -/
theorem Ending.outcome_ne_ok (eof : ε) (ending : Ending ε) (a : α) :
    ending.outcome eof ≠ .ready (.ok a) := by
  cases ending with
  | eof => exact nofun
  | fails e => exact nofun
  | pending => exact nofun

/-- A read that succeeds was there to be read. -/
theorem append_of_readExact {eof : ε} {n : ℕ} {s s' : Source ε} {bytes : List UInt8}
    (h : readExact eof n s = (.ready (.ok bytes), s')) :
    bytes.length = n ∧ s.bytes = bytes ++ s'.bytes ∧ s' = s.skip n := by
  by_cases hn : n ≤ s.bytes.length
  · rw [readExact_of_le eof hn] at h
    cases h
    refine ⟨List.length_take_of_le hn, ?_, rfl⟩
    rw [Source.bytes_skip, List.take_append_drop]
  · rw [readExact_of_lt eof (Nat.not_le.mp hn)] at h
    exact absurd (Prod.mk.inj h).1 (Ending.outcome_ne_ok eof s.ending bytes)

end ByteStream
