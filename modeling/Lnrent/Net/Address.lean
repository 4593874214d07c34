/-
**IP addresses**, and the forms in which an IPv6 address carries an IPv4 one.

* `Ipv4Addr`, `Ipv6Addr` — octets and segments, with the predicates on them;
* `ofSegments`, `high`, `low` — an IPv4 address in two segments;
* `Carries` — the transition forms: mapped, compatible, NAT64, 6to4, Teredo.
-/

import Mathlib.Tactic

namespace Net

/-- An IPv4 address: its octets. -/
structure Ipv4Addr where
  (a b c d : BitVec 8)
deriving DecidableEq

/-- An IPv6 address: its segments. -/
structure Ipv6Addr where
  (s0 s1 s2 s3 s4 s5 s6 s7 : BitVec 16)
deriving DecidableEq

inductive IpAddr where
  | v4 (address : Ipv4Addr)
  | v6 (address : Ipv6Addr)
deriving DecidableEq

/-! ### Ranges -/

namespace Ipv4Addr

/-- `10/8`, `172.16/12`, `192.168/16` -/
def isPrivate (v4 : Ipv4Addr) : Bool :=
  v4.a = 10 || (v4.a = 172 && 16 ≤ v4.b && v4.b ≤ 31) || (v4.a = 192 && v4.b = 168)

/-- `127/8` -/
def isLoopback (v4 : Ipv4Addr) : Bool := v4.a = 127

/-- `169.254/16` -/
def isLinkLocal (v4 : Ipv4Addr) : Bool := v4.a = 169 && v4.b = 254

/-- `0.0.0.0` -/
def isUnspecified (v4 : Ipv4Addr) : Bool := v4 = ⟨0, 0, 0, 0⟩

/-- `255.255.255.255` -/
def isBroadcast (v4 : Ipv4Addr) : Bool := v4 = ⟨255, 255, 255, 255⟩

/-- `192.0.2/24`, `198.51.100/24`, `203.0.113/24` -/
def isDocumentation (v4 : Ipv4Addr) : Bool :=
  (v4.a = 192 && v4.b = 0 && v4.c = 2) || (v4.a = 198 && v4.b = 51 && v4.c = 100) ||
    (v4.a = 203 && v4.b = 0 && v4.c = 113)

/-- `224/4` -/
def isMulticast (v4 : Ipv4Addr) : Bool := 224 ≤ v4.a && v4.a ≤ 239

end Ipv4Addr

namespace Ipv6Addr

/-- `::1` -/
def isLoopback (v6 : Ipv6Addr) : Bool := v6 = ⟨0, 0, 0, 0, 0, 0, 0, 1⟩

/-- `::` -/
def isUnspecified (v6 : Ipv6Addr) : Bool := v6 = ⟨0, 0, 0, 0, 0, 0, 0, 0⟩

/-- `ff00::/8` -/
def isMulticast (v6 : Ipv6Addr) : Bool := v6.s0 &&& 0xff00 = 0xff00

end Ipv6Addr

/-! ### An IPv4 address in two segments -/

namespace Ipv4Addr

/-- The address of two segments. -/
def ofSegments (hi lo : BitVec 16) : Ipv4Addr :=
  ⟨(hi >>> 8).setWidth 8, hi.setWidth 8, (lo >>> 8).setWidth 8, lo.setWidth 8⟩

/-- Its first two octets. -/
def high (v4 : Ipv4Addr) : BitVec 16 := v4.a ++ v4.b

/-- Its last two octets. -/
def low (v4 : Ipv4Addr) : BitVec 16 := v4.c ++ v4.d

theorem first_octet (first second : BitVec 8) :
    BitVec.setWidth 8 ((first ++ second : BitVec 16) >>> 8) = first := by
  apply BitVec.eq_of_toNat_eq
  have below := first.isLt
  have small := second.isLt
  rw [BitVec.toNat_setWidth, BitVec.toNat_ushiftRight, BitVec.toNat_append, Nat.shiftRight_eq_div_pow,
    ← Nat.shiftLeft_add_eq_or_of_lt small, Nat.shiftLeft_eq]
  omega

theorem second_octet (first second : BitVec 8) :
    BitVec.setWidth 8 (first ++ second : BitVec 16) = second := by
  apply BitVec.eq_of_toNat_eq
  have small := second.isLt
  rw [BitVec.toNat_setWidth, BitVec.toNat_append, ← Nat.shiftLeft_add_eq_or_of_lt small,
    Nat.shiftLeft_eq]
  omega

/-- **The two segments hold the address.** -/
@[simp] theorem ofSegments_high_low (v4 : Ipv4Addr) : ofSegments v4.high v4.low = v4 := by
  rw [ofSegments, high, low, first_octet, second_octet, first_octet, second_octet]

end Ipv4Addr

/-- `to_ipv4_mapped` -/
def Ipv6Addr.toIpv4Mapped (v6 : Ipv6Addr) : Option Ipv4Addr :=
  if v6.s0 = 0 ∧ v6.s1 = 0 ∧ v6.s2 = 0 ∧ v6.s3 = 0 ∧ v6.s4 = 0 ∧ v6.s5 = 0xffff then
    some (.ofSegments v6.s6 v6.s7)
  else none

/-! ### Transition forms -/

/-- **An IPv6 address carries an IPv4 one.** -/
inductive Carries : Ipv6Addr → Ipv4Addr → Prop
  /-- `::ffff:0:0/96` -/
  | mapped (v4 : Ipv4Addr) : Carries ⟨0, 0, 0, 0, 0, 0xffff, v4.high, v4.low⟩ v4
  /-- `::/96` -/
  | compatible (v4 : Ipv4Addr) : Carries ⟨0, 0, 0, 0, 0, 0, v4.high, v4.low⟩ v4
  /-- `64:ff9b::/96` -/
  | nat64 (v4 : Ipv4Addr) : Carries ⟨0x64, 0xff9b, 0, 0, 0, 0, v4.high, v4.low⟩ v4
  /-- `2002::/16` -/
  | sixToFour (v4 : Ipv4Addr) (s3 s4 s5 s6 s7 : BitVec 16) :
      Carries ⟨0x2002, v4.high, v4.low, s3, s4, s5, s6, s7⟩ v4
  /-- `2001:0::/32`, the client's address inverted -/
  | teredo (v4 : Ipv4Addr) (s2 s3 s4 s5 : BitVec 16) :
      Carries ⟨0x2001, 0, s2, s3, s4, s5, v4.high ^^^ 0xffff, v4.low ^^^ 0xffff⟩ v4

end Net
