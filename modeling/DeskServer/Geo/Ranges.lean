import DeskServer.Lib.Bytes
import DeskServer.Lib.Cidr

/-!
# `Geo.Ranges` — the addresses that are not looked up

The address of a client is looked up at a service outside, unless it is one of a private network, of this
host or of no host at all. `IsPrivateOrLocalIp` tests masks and leading bytes, and leaves some ranges to the
socket library. **What it lets through is exactly the complement of a few blocks**
(`isPrivateOrLocalIp_eq_false_iff`). The blocks of the short addresses are not repeated among the long ones:
a client of the local network that is written as a long address is looked up (`mapped_public`).

**Shape.** A test of masks is turned into a block by the arithmetic of `Lib.Cidr`; the tests that the socket
library makes are assumed as it documents them (`AsioIp.Documented`). What is in a block is a matter of
numbers, not of the text of the address.
-/

namespace DeskServer

open Bytes Cidr

/-! ## Addresses -/

/-- `asio::ip::address`. -/
inductive IpAddress where
  | v4 (value : BitVec 32)
  | v6 (value : BitVec 128)
deriving DecidableEq

/-- What the resolver uses of the socket library. -/
structure AsioIp where
  makeAddress : Bytes → Option IpAddress
  isLoopback : IpAddress → Bool
  isUnspecified : IpAddress → Bool
  isMulticast : IpAddress → Bool
  isLinkLocal : BitVec 128 → Bool

namespace GeoLocationResolver

/-- The first of `to_bytes()`. -/
def firstByte (value : BitVec 128) : BitVec 8 := value.extractLsb' 120 8

def isPrivateOrLocalIp (asio : AsioIp) (ip : Bytes) : Bool :=
  match asio.makeAddress ip with
  | none => true
  | some address =>
    if asio.isLoopback address || asio.isUnspecified address || asio.isMulticast address then true
    else
      match address with
      | .v4 value =>
        value &&& 0xff000000#32 == 0x0a000000#32 ||
          value &&& 0xfff00000#32 == 0xac100000#32 ||
          value &&& 0xffff0000#32 == 0xc0a80000#32 ||
          value &&& 0xffff0000#32 == 0xa9fe0000#32
      | .v6 value =>
        if asio.isLinkLocal value then true
        else firstByte value &&& 0xfe#8 == 0xfc#8

end GeoLocationResolver

namespace IpAddress

/-! ## Blocks -/

/-- `127.0.0.0/8`. -/
def loopback4 : Block 32 := ⟨0x7f000000#32, 8, by decide, by decide⟩

/-- `0.0.0.0/32`. -/
def unspecified4 : Block 32 := ⟨0#32, 32, by decide, by decide⟩

/-- `224.0.0.0/4`. -/
def multicast4 : Block 32 := ⟨0xe0000000#32, 4, by decide, by decide⟩

/-- `10.0.0.0/8`. -/
def private10 : Block 32 := ⟨0x0a000000#32, 8, by decide, by decide⟩

/-- `172.16.0.0/12`. -/
def private172 : Block 32 := ⟨0xac100000#32, 12, by decide, by decide⟩

/-- `192.168.0.0/16`. -/
def private192 : Block 32 := ⟨0xc0a80000#32, 16, by decide, by decide⟩

/-- `169.254.0.0/16`. -/
def linkLocal4 : Block 32 := ⟨0xa9fe0000#32, 16, by decide, by decide⟩

/-- `::1/128`. -/
def loopback6 : Block 128 := ⟨1#128, 128, by decide, by decide⟩

/-- `::/128`. -/
def unspecified6 : Block 128 := ⟨0#128, 128, by decide, by decide⟩

/-- `ff00::/8`. -/
def multicast6 : Block 128 := Block.extend 120 (⟨0xff#8, 8, by decide, by decide⟩ : Block 8)

/-- `fe80::/10`. -/
def linkLocal6 : Block 128 := ⟨0xfe800000000000000000000000000000#128, 10, by decide, by decide⟩

/-- `fc00::/7`. -/
def uniqueLocal6 : Block 128 := Block.extend 120 (⟨0xfc#8, 7, by decide, by decide⟩ : Block 8)

def localBlocks4 : List (Block 32) :=
  [loopback4, unspecified4, multicast4, private10, private172, private192, linkLocal4]

def localBlocks6 : List (Block 128) := [loopback6, unspecified6, multicast6, linkLocal6, uniqueLocal6]

/-- The address is in none of the blocks. -/
def Public : IpAddress → Prop
  | .v4 value => ∀ block ∈ localBlocks4, value ∉ block
  | .v6 value => ∀ block ∈ localBlocks6, value ∉ block

/-- The address is in the block of its kind. -/
def In (block4 : Block 32) (block6 : Block 128) : IpAddress → Prop
  | .v4 value => value ∈ block4
  | .v6 value => value ∈ block6

instance (block4 : Block 32) (block6 : Block 128) (address : IpAddress) :
    Decidable (address.In block4 block6) :=
  match address with
  | .v4 value => inferInstanceAs (Decidable (value ∈ block4))
  | .v6 value => inferInstanceAs (Decidable (value ∈ block6))

/-- The short address as a long one, `::ffff:0:0/96`. -/
def mapped (value : BitVec 32) : IpAddress := .v6 (0xffff#96 ++ value)

end IpAddress

/-- **What the library says of its addresses**, for each of its predicates. -/
structure AsioIp.Documented (asio : AsioIp) : Prop where
  loopback : ∀ address, asio.isLoopback address = true ↔ address.In IpAddress.loopback4 IpAddress.loopback6
  unspecified : ∀ address, asio.isUnspecified address = true ↔
    address.In IpAddress.unspecified4 IpAddress.unspecified6
  multicast : ∀ address, asio.isMulticast address = true ↔
    address.In IpAddress.multicast4 IpAddress.multicast6
  linkLocal : ∀ value, asio.isLinkLocal value = true ↔ value ∈ IpAddress.linkLocal6

namespace GeoLocationResolver

open IpAddress

/-! ## What is let through -/

/-- The masks of the short addresses. -/
theorem privateMasks (value : BitVec 32) :
    (value &&& 0xff000000#32 == 0x0a000000#32 ||
      value &&& 0xfff00000#32 == 0xac100000#32 ||
      value &&& 0xffff0000#32 == 0xc0a80000#32 ||
      value &&& 0xffff0000#32 == 0xa9fe0000#32) = true ↔
    value ∈ private10 ∨ value ∈ private172 ∨ value ∈ private192 ∨ value ∈ linkLocal4 := by
  have h8 : mask 32 8 = 0xff000000#32 := by decide
  have h12 : mask 32 12 = 0xfff00000#32 := by decide
  have h16 : mask 32 16 = 0xffff0000#32 := by decide
  rw [← and_mask_eq_iff private10, ← and_mask_eq_iff private172, ← and_mask_eq_iff private192,
    ← and_mask_eq_iff linkLocal4]
  simp only [Bool.or_eq_true, beq_iff_eq, or_assoc]
  rw [show private10.length = 8 from rfl, show private172.length = 12 from rfl,
    show private192.length = 16 from rfl, show linkLocal4.length = 16 from rfl, h8, h12, h16]
  exact Iff.rfl

/-- The first byte of the long ones. -/
theorem uniqueLocalMask (value : BitVec 128) :
    (firstByte value &&& 0xfe#8 == 0xfc#8) = true ↔ value ∈ uniqueLocal6 := by
  have h7 : mask 8 7 = 0xfe#8 := by decide
  unfold uniqueLocal6 firstByte
  rw [beq_iff_eq, mem_extend_iff (n := 8) (m := 120), ← and_mask_eq_iff, h7]

theorem public_v4_iff (value : BitVec 32) : (IpAddress.v4 value).Public ↔
    ¬ (value ∈ loopback4 ∨ value ∈ unspecified4 ∨ value ∈ multicast4 ∨ value ∈ private10 ∨
      value ∈ private172 ∨ value ∈ private192 ∨ value ∈ linkLocal4) := by
  simp only [Public, localBlocks4, List.forall_mem_cons, List.not_mem_nil, IsEmpty.forall_iff,
    implies_true, and_true, not_or]

theorem public_v6_iff (value : BitVec 128) : (IpAddress.v6 value).Public ↔
    ¬ (value ∈ loopback6 ∨ value ∈ unspecified6 ∨ value ∈ multicast6 ∨ value ∈ linkLocal6 ∨
      value ∈ uniqueLocal6) := by
  simp only [Public, localBlocks6, List.forall_mem_cons, List.not_mem_nil, IsEmpty.forall_iff,
    implies_true, and_true, not_or]

/-- **What is let through is exactly what is in none of the blocks.** -/
theorem isPrivateOrLocalIp_eq_false_iff {asio : AsioIp} (hasio : asio.Documented) (ip : Bytes) :
    isPrivateOrLocalIp asio ip = false ↔ ∃ address, asio.makeAddress ip = some address ∧ address.Public := by
  unfold isPrivateOrLocalIp
  cases asio.makeAddress ip with
  | none => simp
  | some address =>
      have hloopback := hasio.loopback address
      have hunspecified := hasio.unspecified address
      have hmulticast := hasio.multicast address
      simp only [Option.some.injEq, exists_eq_left']
      rw [← Bool.not_eq_true]
      cases address with
      | v4 value =>
          have hmasks := privateMasks value
          rw [public_v4_iff, Bool.if_true_left]
          simp only [Bool.or_eq_true, decide_eq_true_eq] at hmasks ⊢
          rw [hloopback, hunspecified, hmulticast, hmasks, or_assoc, or_assoc]
          exact Iff.rfl
      | v6 value =>
          rw [public_v6_iff]
          dsimp only
          rw [Bool.if_true_left, Bool.if_true_left]
          simp only [Bool.or_eq_true, decide_eq_true_eq]
          rw [hloopback, hunspecified, hmulticast, hasio.linkLocal, uniqueLocalMask, or_assoc, or_assoc]
          exact Iff.rfl

/-- **No short address written as a long one is in a block**, so such clients of a private network are looked
    up. -/
theorem mapped_public (value : BitVec 32) : (mapped value).Public := by
  have hvalue : (0xffff#96 ++ value).toNat = 0xffff * 2 ^ 32 + value.toNat := by
    rw [BitVec.toNat_append, ← Nat.shiftLeft_add_eq_or_of_lt value.isLt, Nat.shiftLeft_eq]
    rfl
  have hlt := value.isLt
  unfold mapped
  rw [public_v6_iff]
  simp only [mem_iff, hvalue, not_or]
  have hmulticast : multicast6.base.toNat = 0xff * 2 ^ 120 := by decide
  have huniqueLocal : uniqueLocal6.base.toNat = 0xfc * 2 ^ 120 := by decide
  have hlinkLocal : linkLocal6.base.toNat = 0xfe8 * 2 ^ 116 := by decide
  have hloopback : loopback6.base.toNat = 1 ∧ 128 - loopback6.length = 0 := by decide
  have hunspecified : unspecified6.base.toNat = 0 ∧ 128 - unspecified6.length = 0 := by decide
  rw [hmulticast, huniqueLocal, hlinkLocal, hloopback.1, hloopback.2, hunspecified.1, hunspecified.2]
  refine ⟨?_, ?_, ?_, ?_, ?_⟩ <;> omega

/-- **The addresses that are looked up**: those in no block, and among them every short address that is
    written as a long one. -/
theorem looksUp_iff {asio : AsioIp} (hasio : asio.Documented) :
    (∀ ip, isPrivateOrLocalIp asio ip = false ↔
      ∃ address, asio.makeAddress ip = some address ∧ address.Public) ∧
    ∀ ip value, asio.makeAddress ip = some (mapped value) → isPrivateOrLocalIp asio ip = false :=
  ⟨isPrivateOrLocalIp_eq_false_iff hasio, fun ip value h =>
    (isPrivateOrLocalIp_eq_false_iff hasio ip).mpr ⟨_, h, mapped_public value⟩⟩

/-- The library, for three texts. -/
def sampleAsio : AsioIp where
  makeAddress ip :=
    if ip = bytes "8.8.8.8" then some (.v4 0x08080808#32)
    else if ip = bytes "10.1.2.3" then some (.v4 0x0a010203#32)
    else if ip = bytes "::ffff:10.1.2.3" then some (mapped 0x0a010203#32)
    else none
  isLoopback address := decide (address.In loopback4 loopback6)
  isUnspecified address := decide (address.In unspecified4 unspecified6)
  isMulticast address := decide (address.In multicast4 multicast6)
  isLinkLocal value := decide (value ∈ linkLocal6)

theorem sampleAsio_documented : sampleAsio.Documented :=
  ⟨fun _ => decide_eq_true_iff, fun _ => decide_eq_true_iff, fun _ => decide_eq_true_iff,
    fun _ => decide_eq_true_iff⟩

/-- A client of a private network, written as a long address. -/
theorem looksUp_mapped : isPrivateOrLocalIp sampleAsio (bytes "10.1.2.3") = true ∧
    isPrivateOrLocalIp sampleAsio (bytes "::ffff:10.1.2.3") = false :=
  ⟨by decide, (looksUp_iff sampleAsio_documented).2 _ 0x0a010203#32 (by decide)⟩

end GeoLocationResolver
end DeskServer
