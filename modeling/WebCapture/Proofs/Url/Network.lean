import Mathlib
import WebCapture.Proofs.Url.Address
import WebCapture.Url.Admission

set_option autoImplicit false

/-! # Which hosts and ports are refused

A numeric address is a number of 32 or 128 bits, and a block of addresses is what those numbers
have in common that start with the same bits. `Host.IsInternal` names the hosts of the machine
itself and of private networks in these terms; the checks refuse exactly those (`checkHost_eq_ok`)
and the ports up to 1022 (`checkPort_eq_ok`).

The checks look at single octets and pieces, with masks where a block does not end between two of
them. Both sides are brought to numbers below a power of two, in which the first bits are a
quotient.
-/

namespace WebCapture.Url

/-! ## Blocks of addresses -/

/-- An octet may be written as a numeral. -/
local instance Ipv4.octet_neZero : NeZero 256 := ⟨by decide⟩

def Ipv4.number (ip : Ipv4) : Nat :=
  ip.a.val * 2 ^ 24 + ip.b.val * 2 ^ 16 + ip.c.val * 2 ^ 8 + ip.d.val

/-- The address is in the block of all addresses that share the first `length` bits with
`base`. -/
def Ipv4.InBlock (ip base : Ipv4) (length : Nat) : Prop :=
  ip.number / 2 ^ (32 - length) = base.number / 2 ^ (32 - length)

def Ipv6.number (ip : Ipv6) : Nat := ip.pieces.foldl (fun n p => n * 2 ^ 16 + p.val) 0

/-- The address is in the block of all addresses that share the first `length` bits with
`base`. -/
def Ipv6.InBlock (ip : Ipv6) (base length : Nat) : Prop :=
  ip.number / 2 ^ (128 - length) = base / 2 ^ (128 - length)

/-- The address stands for one of four octets, as `::ffff:0:0/96` does. -/
def Ipv6.IsMapped (ip : Ipv6) (mapped : Ipv4) : Prop :=
  ip.number = 0xFFFF * 2 ^ 32 + mapped.number

/-- The addresses of the machine itself and of private networks. -/
def Ipv4.IsInternal (ip : Ipv4) : Prop :=
  ip.InBlock ⟨127, 0, 0, 0⟩ 8 ∨ ip.InBlock ⟨10, 0, 0, 0⟩ 8 ∨ ip.InBlock ⟨172, 16, 0, 0⟩ 12 ∨
    ip.InBlock ⟨192, 168, 0, 0⟩ 16

/-- The addresses `::1` and `fc00::/7`, and those that stand for an internal address of four
octets. -/
def Ipv6.IsInternal (ip : Ipv6) : Prop :=
  ip.number = 1 ∨ ip.InBlock (0xFC00 * 2 ^ 112) 7 ∨ ∃ mapped, ip.IsMapped mapped ∧ mapped.IsInternal

def Host.IsInternal : Host → Prop
  | .name text => text = "localhost".toList
  | .ipv4 ip => ip.IsInternal
  | .ipv6 ip => ip.IsInternal

/-! ## Addresses of four octets -/

theorem Ipv4.isLoopback_iff (ip : Ipv4) :
    ip.isLoopback = true ↔ ip.InBlock ⟨127, 0, 0, 0⟩ 8 := by
  have b := ip.b.isLt
  have c := ip.c.isLt
  have d := ip.d.isLt
  have base : Ipv4.number ⟨127, 0, 0, 0⟩ = 127 * 2 ^ 24 := by decide
  rw [Ipv4.isLoopback, beq_iff_eq, Ipv4.InBlock, base, Ipv4.number]
  omega

theorem Ipv4.isPrivate_iff (ip : Ipv4) :
    ip.isPrivate = true ↔ ip.InBlock ⟨10, 0, 0, 0⟩ 8 ∨ ip.InBlock ⟨172, 16, 0, 0⟩ 12 ∨
      ip.InBlock ⟨192, 168, 0, 0⟩ 16 := by
  have b := ip.b.isLt
  have c := ip.c.isLt
  have d := ip.d.isLt
  have ten : Ipv4.number ⟨10, 0, 0, 0⟩ = 10 * 2 ^ 24 := by decide
  have middle : Ipv4.number ⟨172, 16, 0, 0⟩ = 172 * 2 ^ 24 + 16 * 2 ^ 16 := by decide
  have last : Ipv4.number ⟨192, 168, 0, 0⟩ = 192 * 2 ^ 24 + 168 * 2 ^ 16 := by decide
  rw [Ipv4.InBlock, Ipv4.InBlock, Ipv4.InBlock, ten, middle, last, Ipv4.number]
  simp only [Ipv4.isPrivate, Bool.or_eq_true, Bool.and_eq_true, beq_iff_eq, decide_eq_true_eq]
  omega

theorem Ipv4.number_lt (ip : Ipv4) : ip.number < 2 ^ 32 := by
  have a := ip.a.isLt
  have b := ip.b.isLt
  have c := ip.c.isLt
  have d := ip.d.isLt
  rw [Ipv4.number]
  omega

theorem Ipv4.number_ofNat {n : Nat} (h : n < 2 ^ 32) : (Ipv4.ofNat n).number = n := by
  simp only [Ipv4.ofNat, Ipv4.number, Fin.val_ofNat]
  omega

theorem Ipv4.ofNat_number (ip : Ipv4) : Ipv4.ofNat ip.number = ip := ip.ofNat_octets

/-- **An address of four octets is refused exactly if it is internal.** -/
theorem checkIpv4_eq_ok (ip : Ipv4) : checkIpv4 ip = .ok () ↔ ¬ip.IsInternal := by
  have loopback := ip.isLoopback_iff
  have hidden := ip.isPrivate_iff
  unfold checkIpv4 Ipv4.IsInternal
  split
  · rename_i h
    have inside := loopback.mp h
    simp [inside]
  · rename_i outside
    rw [loopback] at outside
    split
    · rename_i h
      have inside := hidden.mp h
      simp [inside]
    · rename_i h
      rw [hidden] at h
      simp only [true_iff, not_or]
      exact ⟨outside, not_or.mp h |>.1, not_or.mp (not_or.mp h).2⟩

/-! ## Addresses of eight pieces -/

theorem Ipv6.exists_pieces (ip : Ipv6) : ∃ a b c d e f p q, ip.pieces = [a, b, c, d, e, f, p, q] := by
  obtain ⟨pieces, count⟩ := ip
  match pieces, count with
  | [a, b, c, d, e, f, p, q], _ => exact ⟨a, b, c, d, e, f, p, q, rfl⟩

theorem Ipv6.isLoopback_iff (ip : Ipv6) : ip.isLoopback = true ↔ ip.number = 1 := by
  obtain ⟨a, b, c, d, e, f, p, q, pieces⟩ := ip.exists_pieces
  simp only [Ipv6.isLoopback, Ipv6.number, pieces, List.map_cons, List.map_nil, List.foldl_cons,
    List.foldl_nil, beq_iff_eq, List.cons.injEq, and_true]
  omega

theorem Ipv6.isPrivate_iff (ip : Ipv6) :
    ip.isPrivate = true ↔ ip.InBlock (0xFC00 * 2 ^ 112) 7 := by
  obtain ⟨a, b, c, d, e, f, p, q, pieces⟩ := ip.exists_pieces
  simp only [Ipv6.isPrivate, Ipv6.InBlock, Ipv6.number, pieces, List.foldl_cons, List.foldl_nil,
    beq_iff_eq]
  omega

theorem Ipv6.mapped?_eq_some (ip : Ipv6) (mapped : Ipv4) :
    ip.mapped? = some mapped ↔ ip.IsMapped mapped := by
  obtain ⟨a, b, c, d, e, f, p, q, pieces⟩ := ip.exists_pieces
  have small := mapped.number_lt
  simp only [Ipv6.mapped?, Ipv6.IsMapped, Ipv6.number, pieces, List.map_cons, List.map_nil,
    List.foldl_cons, List.foldl_nil]
  split
  · -- The front is five zeros and `ffff`, so that the last two pieces make up the address.
    rename_i p' q' same
    simp only [List.cons.injEq, and_true] at same
    obtain ⟨ha, hb, hc, hd, he, hf, rfl, rfl⟩ := same
    have low : p.val * 65536 + q.val < 2 ^ 32 := by omega
    constructor
    · intro h
      cases h
      rw [Ipv4.number_ofNat low, ha, hb, hc, hd, he, hf]
      omega
    · intro h
      rw [ha, hb, hc, hd, he, hf] at h
      have number : mapped.number = p.val * 65536 + q.val := by omega
      rw [← number, mapped.ofNat_number]
  · -- A number of this size has such a front.
    rename_i other
    simp only [reduceCtorEq, false_iff]
    intro h
    have front : a.val = 0 ∧ b.val = 0 ∧ c.val = 0 ∧ d.val = 0 ∧ e.val = 0 ∧ f.val = 0xFFFF := by
      omega
    obtain ⟨ha, hb, hc, hd, he, hf⟩ := front
    rw [ha, hb, hc, hd, he, hf] at other
    exact other p.val q.val rfl

/-- **An address of eight pieces is refused exactly if it is internal.** One that stands for an
address of four octets is neither `::1` nor in `fc00::/7`. -/
theorem Ipv6.checkHost_eq_ok (ip : Ipv6) : checkHost (.ipv6 ip) = .ok () ↔ ¬ip.IsInternal := by
  cases stands : ip.mapped? with
  | some mapped =>
      have number : ip.number = 0xFFFF * 2 ^ 32 + mapped.number :=
        (ip.mapped?_eq_some mapped).mp stands
      have small := mapped.number_lt
      have only : ip.IsInternal ↔ mapped.IsInternal := by
        constructor
        · rintro (loopback | block | ⟨other, same, inside⟩)
          -- The number is too large for `::1` and too small for `fc00::/7`.
          · omega
          · rw [Ipv6.InBlock] at block
            omega
          · have again := (ip.mapped?_eq_some other).mpr same
            rw [stands] at again
            cases again
            exact inside
        · exact fun inside => .inr (.inr ⟨mapped, number, inside⟩)
      rw [checkHost, stands, only]
      exact checkIpv4_eq_ok mapped
  | none =>
      have never : ¬∃ mapped, ip.IsMapped mapped ∧ mapped.IsInternal := by
        rintro ⟨mapped, same, -⟩
        have again := (ip.mapped?_eq_some mapped).mpr same
        rw [stands] at again
        cases again
      rw [checkHost, stands, Ipv6.IsInternal, ← ip.isLoopback_iff, ← ip.isPrivate_iff]
      cases ip.isLoopback <;> cases ip.isPrivate <;> simp [never]

/-! ## Hosts and ports -/

/-- **A host is refused exactly if it is internal.** -/
theorem checkHost_eq_ok (host : Host) : checkHost host = .ok () ↔ ¬host.IsInternal := by
  cases host with
  | name text =>
      show (if text = "localhost".toList then Except.error Refusal.loopback else .ok ()) = _ ↔
        ¬text = "localhost".toList
      by_cases same : text = "localhost".toList
      · rw [if_pos same]
        constructor
        · intro h
          cases h
        · exact fun other => absurd same other
      · rw [if_neg same]
        exact ⟨fun _ => same, fun _ => rfl⟩
  | ipv4 ip => exact checkIpv4_eq_ok ip
  | ipv6 ip => exact ip.checkHost_eq_ok

theorem checkPort_eq_ok (port : Option Nat) :
    checkPort port = .ok () ↔ ∀ n, port = some n → ¬(1 ≤ n ∧ n ≤ 1022) := by
  cases port with
  | none => simp [checkPort]
  | some n =>
      simp only [checkPort]
      split
      · simp
        omega
      · simp
        omega

end WebCapture.Url
