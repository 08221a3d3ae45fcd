import Skyauth.IpFilter
import Skyauth.Lib.Cidr

/-!
# The IP filter and its table

The documentation of the filter (`src/kernels/ip_filter.rs`) is a table of address blocks. The code
compares octets and segments, with masks and ranges; here the table is kept as blocks of 32-bit and
128-bit numbers, in the order of the documentation, and the two are the same filter.
-/

namespace Skyauth

open Cidr (Block)

/-! ## Addresses as numbers -/

/-- `u32::from(Ipv4Addr)`. -/
def ipv4ToNat (o0 o1 o2 o3 : UInt8) : ℕ :=
  Cidr.ofParts 8 [o0.toNat, o1.toNat, o2.toNat, o3.toNat]

/-- `u128::from(Ipv6Addr)`. -/
def ipv6ToNat (s0 s1 s2 s3 s4 s5 s6 s7 : UInt16) : ℕ :=
  Cidr.ofParts 16
    [s0.toNat, s1.toNat, s2.toNat, s3.toNat, s4.toNat, s5.toNat, s6.toNat, s7.toNat]

/-! ## The documented table -/

def RESTRICTED_IPV4_BLOCKS : List (Block 32) :=
  [{ network := ipv4ToNat 0 0 0 0, length := 8 },
    { network := ipv4ToNat 10 0 0 0, length := 8 },
    { network := ipv4ToNat 100 64 0 0, length := 10 },
    { network := ipv4ToNat 127 0 0 0, length := 8 },
    { network := ipv4ToNat 169 254 0 0, length := 16 },
    { network := ipv4ToNat 172 16 0 0, length := 12 },
    { network := ipv4ToNat 192 0 0 0, length := 24 },
    { network := ipv4ToNat 192 0 2 0, length := 24 },
    { network := ipv4ToNat 192 88 99 0, length := 24 },
    { network := ipv4ToNat 192 168 0 0, length := 16 },
    { network := ipv4ToNat 198 18 0 0, length := 15 },
    { network := ipv4ToNat 198 51 100 0, length := 24 },
    { network := ipv4ToNat 203 0 113 0, length := 24 },
    { network := ipv4ToNat 224 0 0 0, length := 4 },
    { network := ipv4ToNat 240 0 0 0, length := 4 }]

/-- A range of the IPv6 table: a block, and for the two that carry an IPv4 address the number of bits
    below it. -/
structure Ipv6Range where
  block : Block 128
  embedded : Option ℕ

def RESTRICTED_IPV6_RANGES : List Ipv6Range :=
  [{ block := { network := ipv6ToNat 0 0 0 0 0 0 0 0, length := 128 }, embedded := none },
    { block := { network := ipv6ToNat 0 0 0 0 0 0 0 1, length := 128 }, embedded := none },
    { block := { network := ipv6ToNat 0 0 0 0 0 0xffff 0 0, length := 96 }, embedded := some 0 },
    { block := { network := ipv6ToNat 0 0 0 0 0xffff 0 0 0, length := 96 }, embedded := none },
    { block := { network := ipv6ToNat 0x0064 0xff9b 0 0 0 0 0 0, length := 96 }, embedded := none },
    { block := { network := ipv6ToNat 0x2001 0x0db8 0 0 0 0 0 0, length := 32 }, embedded := none },
    { block := { network := ipv6ToNat 0x2001 0 0 0 0 0 0 0, length := 32 }, embedded := none },
    { block := { network := ipv6ToNat 0x2002 0 0 0 0 0 0 0, length := 16 }, embedded := some 80 },
    { block := { network := ipv6ToNat 0xfc00 0 0 0 0 0 0 0, length := 7 }, embedded := none },
    { block := { network := ipv6ToNat 0xfe80 0 0 0 0 0 0 0, length := 10 }, embedded := none },
    { block := { network := ipv6ToNat 0xfec0 0 0 0 0 0 0 0, length := 10 }, embedded := none },
    { block := { network := ipv6ToNat 0xff00 0 0 0 0 0 0 0, length := 8 }, embedded := none }]

/-- The address is in a block of the table. -/
def IsRestrictedIpv4 (address : ℕ) : Prop := ∃ block ∈ RESTRICTED_IPV4_BLOCKS, block.Contains address

/-- The address is in the range, and so is the IPv4 address it carries if the range has one. -/
def Ipv6Range.Restricts (range : Ipv6Range) (address : ℕ) : Prop :=
  range.block.Contains address ∧
    ∀ shift, range.embedded = some shift → IsRestrictedIpv4 (address / 2 ^ shift % 2 ^ 32)

def IsRestrictedIpv6 (address : ℕ) : Prop := ∃ range ∈ RESTRICTED_IPV6_RANGES, range.Restricts address

/-! ## IPv4 -/

section Ipv4

variable {block : Block 32} {o0 o1 o2 o3 a0 a1 a2 a3 : UInt8}

theorem octets_lt (octets : List UInt8) : ∀ octet ∈ octets.map UInt8.toNat, octet < 2 ^ 8 := by
  intro octet hoctet
  obtain ⟨o, -, rfl⟩ := List.mem_map.1 hoctet
  exact o.toNat_lt

/-- A prefix that ends in the first octet. -/
theorem contains_first_octet (hnetwork : block.network = ipv4ToNat a0 a1 a2 a3) (free : ℕ)
    (hfree : free ≤ 8) (hlength : block.length = 8 - free) :
    block.Contains (ipv4ToNat o0 o1 o2 o3) ↔ o0.toNat / 2 ^ free = a0.toNat / 2 ^ free := by
  have hblock := Block.contains_ofParts (w := 8) (a := []) (b := []) hnetwork (by simp; omega)
    (by decide) hfree (octets_lt [o0, o1, o2, o3]) (octets_lt [a0, a1, a2, a3]) rfl rfl
  exact hblock.trans (and_iff_right rfl)

/-- A prefix that ends in the second octet. -/
theorem contains_second_octet (hnetwork : block.network = ipv4ToNat a0 a1 a2 a3) (free : ℕ)
    (hfree : free ≤ 8) (hlength : block.length = 16 - free) :
    block.Contains (ipv4ToNat o0 o1 o2 o3) ↔
      o0 = a0 ∧ o1.toNat / 2 ^ free = a1.toNat / 2 ^ free := by
  have hblock := Block.contains_ofParts (w := 8) (a := [o0.toNat]) (b := [a0.toNat]) hnetwork
    (by simp; omega) (by decide) hfree (octets_lt [o0, o1, o2, o3]) (octets_lt [a0, a1, a2, a3]) rfl rfl
  rw [List.singleton_inj, UInt8.toNat_inj] at hblock
  exact hblock

/-- A prefix of whole octets. -/
theorem contains_octets (a b rest rest' : List UInt8)
    (hnetwork : block.network = Cidr.ofParts 8 ((b ++ rest').map UInt8.toNat))
    (hwidth : 32 - block.length = 8 * rest.length) (hlength : a.length = b.length)
    (hrest : rest.length = rest'.length) :
    block.Contains (Cidr.ofParts 8 ((a ++ rest).map UInt8.toNat)) ↔ a = b := by
  rw [List.map_append] at hnetwork ⊢
  rw [Block.contains_append hnetwork (by rwa [List.length_map]) (by decide)
    (List.map_append ▸ octets_lt (a ++ rest)) (List.map_append ▸ octets_lt (b ++ rest'))
    (by rwa [List.length_map, List.length_map]) (by rwa [List.length_map, List.length_map])]
  exact (List.map_injective_iff.2 fun _ _ => UInt8.toNat_inj.1).eq_iff

theorem contains_slash8 (hnetwork : block.network = ipv4ToNat a0 a1 a2 a3) (hlength : block.length = 8) :
    (o0 == a0) = true ↔ block.Contains (ipv4ToNat o0 o1 o2 o3) := by
  have hblock := contains_octets [o0] [a0] [o1, o2, o3] [a1, a2, a3] hnetwork (by rw [hlength]; rfl) rfl rfl
  rw [beq_iff_eq, ← List.singleton_inj]
  exact hblock.symm

theorem contains_slash16 (hnetwork : block.network = ipv4ToNat a0 a1 a2 a3)
    (hlength : block.length = 16) :
    (o0 == a0 && o1 == a1) = true ↔ block.Contains (ipv4ToNat o0 o1 o2 o3) := by
  have hblock := contains_octets [o0, o1] [a0, a1] [o2, o3] [a2, a3] hnetwork (by rw [hlength]; rfl) rfl rfl
  simp only [List.cons.injEq, and_true] at hblock
  simp only [Bool.and_eq_true, beq_iff_eq]
  exact hblock.symm

theorem contains_slash24 (hnetwork : block.network = ipv4ToNat a0 a1 a2 a3)
    (hlength : block.length = 24) :
    (o0 == a0 && o1 == a1 && o2 == a2) = true ↔ block.Contains (ipv4ToNat o0 o1 o2 o3) := by
  have hblock := contains_octets [o0, o1, o2] [a0, a1, a2] [o3] [a3] hnetwork (by rw [hlength]; rfl) rfl rfl
  simp only [List.cons.injEq, and_true] at hblock
  simp only [Bool.and_eq_true, beq_iff_eq, and_assoc]
  exact hblock.symm

/-- The octet comparisons are the IPv4 table. -/
theorem isRestrictedIpv4Octets_iff (o0 o1 o2 o3 : UInt8) :
    isRestrictedIpv4Octets o0 o1 o2 o3 = true ↔ IsRestrictedIpv4 (ipv4ToNat o0 o1 o2 o3) := by
  simp only [isRestrictedIpv4Octets, Bool.or_eq_true, or_assoc, IsRestrictedIpv4,
    RESTRICTED_IPV4_BLOCKS, List.mem_cons, exists_eq_or_imp, List.not_mem_nil, or_false, exists_eq_left]
  refine or_congr (contains_slash8 rfl rfl) <| or_congr (contains_slash8 rfl rfl) <|
    or_congr ?shared <| or_congr (contains_slash8 rfl rfl) <| or_congr (contains_slash16 rfl rfl) <|
    or_congr ?privateUse <| or_congr (contains_slash24 rfl rfl) <| or_congr (contains_slash24 rfl rfl) <|
    or_congr (contains_slash24 rfl rfl) <| or_congr (contains_slash16 rfl rfl) <|
    or_congr ?benchmarking <| or_congr (contains_slash24 rfl rfl) <|
    or_congr (contains_slash24 rfl rfl) <| or_congr ?multicast ?reserved
  case shared =>
    rw [contains_second_octet rfl 6 (by decide) rfl, Bool.and_eq_true, beq_iff_eq, beq_iff_eq,
      ← UInt8.toNat_inj (a := o1 &&& 0xC0), UInt8.toNat_and]
    have hmask := Cidr.and_mask_eq_iff (w := 8) (show 6 ≤ 8 by decide) o1.toNat_lt
      (show 2 ^ 6 ∣ 64 by decide)
    exact and_congr_right fun _ => hmask
  case privateUse =>
    rw [contains_second_octet rfl 4 (by decide) rfl]
    simp only [Bool.and_eq_true, beq_iff_eq, decide_eq_true_eq, and_assoc, ge_iff_le,
      UInt8.le_iff_toNat_le, UInt8.reduceToNat]
    exact and_congr_right fun _ => by omega
  case benchmarking =>
    rw [contains_second_octet rfl 1 (by decide) rfl]
    simp only [Bool.and_eq_true, Bool.or_eq_true, beq_iff_eq, ← UInt8.toNat_inj (a := o1),
      UInt8.reduceToNat]
    exact and_congr_right fun _ => by omega
  case multicast =>
    rw [contains_first_octet rfl 4 (by decide) rfl]
    simp only [Bool.and_eq_true, decide_eq_true_eq, ge_iff_le, UInt8.le_iff_toNat_le, UInt8.reduceToNat]
    omega
  case reserved =>
    have hlt := o0.toNat_lt
    rw [contains_first_octet rfl 4 (by decide) rfl]
    simp only [decide_eq_true_eq, ge_iff_le, UInt8.le_iff_toNat_le, UInt8.reduceToNat]
    omega

end Ipv4

/-! ## IPv6 -/

section Ipv6

variable {block : Block 128} {s0 s1 s2 s3 s4 s5 s6 s7 a0 a1 a2 a3 a4 a5 a6 a7 : UInt16}

theorem segments_lt (segments : List UInt16) :
    ∀ segment ∈ segments.map UInt16.toNat, segment < 2 ^ 16 := by
  intro segment hsegment
  obtain ⟨s, -, rfl⟩ := List.mem_map.1 hsegment
  exact s.toNat_lt

/-- A prefix that ends in the first segment. -/
theorem contains_first_segment (hnetwork : block.network = ipv6ToNat a0 a1 a2 a3 a4 a5 a6 a7) (free : ℕ)
    (hfree : free ≤ 16) (hlength : block.length = 16 - free) :
    block.Contains (ipv6ToNat s0 s1 s2 s3 s4 s5 s6 s7) ↔
      s0.toNat / 2 ^ free = a0.toNat / 2 ^ free := by
  have hblock := Block.contains_ofParts (w := 16) (a := []) (b := []) hnetwork (by simp; omega)
    (by decide) hfree (segments_lt [s0, s1, s2, s3, s4, s5, s6, s7])
    (segments_lt [a0, a1, a2, a3, a4, a5, a6, a7]) rfl rfl
  exact hblock.trans (and_iff_right rfl)

/-- A prefix that ends in the first segment, compared under a mask. -/
theorem contains_masked (hnetwork : block.network = ipv6ToNat a0 a1 a2 a3 a4 a5 a6 a7) (free : ℕ)
    (hfree : free ≤ 16) (hlength : block.length = 16 - free) (haligned : 2 ^ free ∣ a0.toNat)
    {mask : UInt16} (hmask : mask.toNat = 2 ^ 16 - 2 ^ free) :
    ((s0 &&& mask) == a0) = true ↔ block.Contains (ipv6ToNat s0 s1 s2 s3 s4 s5 s6 s7) := by
  rw [contains_first_segment hnetwork free hfree hlength, beq_iff_eq, ← UInt16.toNat_inj, UInt16.toNat_and,
    hmask, Cidr.and_mask_eq_iff hfree s0.toNat_lt haligned]

/-- A prefix of whole segments. -/
theorem contains_segments (a b rest rest' : List UInt16)
    (hnetwork : block.network = Cidr.ofParts 16 ((b ++ rest').map UInt16.toNat))
    (hwidth : 128 - block.length = 16 * rest.length) (hlength : a.length = b.length)
    (hrest : rest.length = rest'.length) :
    block.Contains (Cidr.ofParts 16 ((a ++ rest).map UInt16.toNat)) ↔ a = b := by
  rw [List.map_append] at hnetwork ⊢
  rw [Block.contains_append hnetwork (by rwa [List.length_map]) (by decide)
    (List.map_append ▸ segments_lt (a ++ rest)) (List.map_append ▸ segments_lt (b ++ rest'))
    (by rwa [List.length_map, List.length_map]) (by rwa [List.length_map, List.length_map])]
  exact (List.map_injective_iff.2 fun _ _ => UInt16.toNat_inj.1).eq_iff

theorem contains_segment_slash16 (hnetwork : block.network = ipv6ToNat a0 a1 a2 a3 a4 a5 a6 a7)
    (hlength : block.length = 16) :
    (s0 == a0) = true ↔ block.Contains (ipv6ToNat s0 s1 s2 s3 s4 s5 s6 s7) := by
  have hblock := contains_segments [s0] [a0] [s1, s2, s3, s4, s5, s6, s7] [a1, a2, a3, a4, a5, a6, a7]
    hnetwork (by rw [hlength]; rfl) rfl rfl
  rw [beq_iff_eq, ← List.singleton_inj]
  exact hblock.symm

theorem contains_slash32 (hnetwork : block.network = ipv6ToNat a0 a1 a2 a3 a4 a5 a6 a7)
    (hlength : block.length = 32) :
    (s0 == a0 && s1 == a1) = true ↔ block.Contains (ipv6ToNat s0 s1 s2 s3 s4 s5 s6 s7) := by
  have hblock := contains_segments [s0, s1] [a0, a1] [s2, s3, s4, s5, s6, s7] [a2, a3, a4, a5, a6, a7]
    hnetwork (by rw [hlength]; rfl) rfl rfl
  simp only [List.cons.injEq, and_true] at hblock
  simp only [Bool.and_eq_true, beq_iff_eq]
  exact hblock.symm

theorem contains_slash96 (hnetwork : block.network = ipv6ToNat a0 a1 a2 a3 a4 a5 a6 a7)
    (hlength : block.length = 96) :
    (s0 == a0 && s1 == a1 && s2 == a2 && s3 == a3 && s4 == a4 && s5 == a5) = true ↔
      block.Contains (ipv6ToNat s0 s1 s2 s3 s4 s5 s6 s7) := by
  have hblock := contains_segments [s0, s1, s2, s3, s4, s5] [a0, a1, a2, a3, a4, a5] [s6, s7] [a6, a7]
    hnetwork (by rw [hlength]; rfl) rfl rfl
  simp only [List.cons.injEq, and_true] at hblock
  simp only [Bool.and_eq_true, beq_iff_eq, and_assoc]
  exact hblock.symm

theorem contains_slash128 (hnetwork : block.network = ipv6ToNat a0 a1 a2 a3 a4 a5 a6 a7)
    (hlength : block.length = 128) :
    (s0 == a0 && s1 == a1 && s2 == a2 && s3 == a3 && s4 == a4 && s5 == a5 && s6 == a6 && s7 == a7)
        = true ↔
      block.Contains (ipv6ToNat s0 s1 s2 s3 s4 s5 s6 s7) := by
  have hblock := contains_segments [s0, s1, s2, s3, s4, s5, s6, s7] [a0, a1, a2, a3, a4, a5, a6, a7] [] []
    hnetwork (by rw [hlength]; rfl) rfl rfl
  simp only [List.cons.injEq, and_true] at hblock
  simp only [Bool.and_eq_true, beq_iff_eq, and_assoc]
  exact hblock.symm

/-- Two segments carry the IPv4 address of their four bytes. -/
theorem isRestrictedEmbedded_iff (hi lo : UInt16) :
    isRestrictedEmbedded hi lo = true ↔ IsRestrictedIpv4 (Cidr.ofParts 16 [hi.toNat, lo.toNat]) := by
  have hhigh : ∀ s : UInt16, ((s >>> 8) &&& 0xff).toUInt8.toNat = s.toNat / 256 := by
    intro s
    have hlt := s.toNat_lt
    simp only [UInt16.toNat_toUInt8, UInt16.toNat_and, UInt16.toNat_shiftRight, UInt16.reduceToNat]
    rw [show (255 : ℕ) = 2 ^ 8 - 1 by rfl, Nat.and_two_pow_sub_one_eq_mod, Nat.shiftRight_eq_div_pow,
      show 8 % 16 = 8 by rfl]
    omega
  have hlow : ∀ s : UInt16, (s &&& 0xff).toUInt8.toNat = s.toNat % 256 := by
    intro s
    simp only [UInt16.toNat_toUInt8, UInt16.toNat_and, UInt16.reduceToNat]
    rw [show (255 : ℕ) = 2 ^ 8 - 1 by rfl, Nat.and_two_pow_sub_one_eq_mod]
    omega
  rw [isRestrictedEmbedded, isRestrictedIpv4Octets_iff, ipv4ToNat, hhigh, hlow, hhigh, hlow]
  have hjoin : Cidr.ofParts 8 [hi.toNat / 256, hi.toNat % 256, lo.toNat / 256, lo.toNat % 256] =
      Cidr.ofParts 16 [hi.toNat, lo.toNat] := by
    simp only [Cidr.ofParts, List.foldl_cons, List.foldl_nil]
    omega
  rw [hjoin]

/-- The lowest 32 bits. -/
theorem ipv6ToNat_mapped (s0 s1 s2 s3 s4 s5 s6 s7 : UInt16) :
    ipv6ToNat s0 s1 s2 s3 s4 s5 s6 s7 / 2 ^ 0 % 2 ^ 32 = Cidr.ofParts 16 [s6.toNat, s7.toNat] := by
  rw [Nat.pow_zero, Nat.div_one]
  exact Cidr.ofParts_append_mod (a := [s0.toNat, s1.toNat, s2.toNat, s3.toNat, s4.toNat, s5.toNat])
    (by decide) (segments_lt [s6, s7])

/-- The 32 bits after the first 16. -/
theorem ipv6ToNat_6to4 (s0 s1 s2 s3 s4 s5 s6 s7 : UInt16) :
    ipv6ToNat s0 s1 s2 s3 s4 s5 s6 s7 / 2 ^ 80 % 2 ^ 32 = Cidr.ofParts 16 [s1.toNat, s2.toNat] := by
  have hdiv : ipv6ToNat s0 s1 s2 s3 s4 s5 s6 s7 / 2 ^ 80 =
      Cidr.ofParts 16 [s0.toNat, s1.toNat, s2.toNat] :=
    Cidr.ofParts_append_div (a := [s0.toNat, s1.toNat, s2.toNat]) (by decide)
      (segments_lt [s3, s4, s5, s6, s7])
  rw [hdiv]
  exact Cidr.ofParts_append_mod (a := [s0.toNat]) (by decide) (segments_lt [s1, s2])

variable {range : Ipv6Range} {address : ℕ} {inBlock embedded : Bool}

theorem Ipv6Range.restricts_whole (hembedded : range.embedded = none)
    (hblock : inBlock = true ↔ range.block.Contains address) :
    inBlock = true ↔ range.Restricts address := by
  rw [Ipv6Range.Restricts, hembedded, hblock]
  simp

theorem Ipv6Range.restricts_embedded {shift : ℕ} (hshift : range.embedded = some shift)
    (hblock : inBlock = true ↔ range.block.Contains address)
    (hembedded : embedded = true ↔ IsRestrictedIpv4 (address / 2 ^ shift % 2 ^ 32)) :
    (inBlock && embedded) = true ↔ range.Restricts address := by
  rw [Ipv6Range.Restricts, hshift, Bool.and_eq_true, hblock, hembedded]
  simp

/-- The segment comparisons are the IPv6 table. -/
theorem isRestrictedIpv6Segments_iff (s0 s1 s2 s3 s4 s5 s6 s7 : UInt16) :
    isRestrictedIpv6Segments s0 s1 s2 s3 s4 s5 s6 s7 = true ↔
      IsRestrictedIpv6 (ipv6ToNat s0 s1 s2 s3 s4 s5 s6 s7) := by
  have hmapped := isRestrictedEmbedded_iff s6 s7
  rw [← ipv6ToNat_mapped s0 s1 s2 s3 s4 s5 s6 s7] at hmapped
  have h6to4 := isRestrictedEmbedded_iff s1 s2
  rw [← ipv6ToNat_6to4 s0 s1 s2 s3 s4 s5 s6 s7] at h6to4
  simp only [isRestrictedIpv6Segments, Bool.or_eq_true, or_assoc, IsRestrictedIpv6,
    RESTRICTED_IPV6_RANGES, List.mem_cons, exists_eq_or_imp, List.not_mem_nil, or_false, exists_eq_left]
  refine or_congr (Ipv6Range.restricts_whole rfl (contains_slash128 rfl rfl)) <|
    or_congr (Ipv6Range.restricts_whole rfl (contains_slash128 rfl rfl)) <|
    or_congr (Ipv6Range.restricts_embedded rfl (contains_slash96 rfl rfl) hmapped) <|
    or_congr (Ipv6Range.restricts_whole rfl (contains_slash96 rfl rfl)) <|
    or_congr (Ipv6Range.restricts_whole rfl (contains_slash96 rfl rfl)) <|
    or_congr (Ipv6Range.restricts_whole rfl (contains_slash32 rfl rfl)) <|
    or_congr (Ipv6Range.restricts_whole rfl (contains_slash32 rfl rfl)) <|
    or_congr (Ipv6Range.restricts_embedded rfl (contains_segment_slash16 rfl rfl) h6to4) <|
    or_congr (Ipv6Range.restricts_whole rfl ?uniqueLocal) <|
    or_congr (Ipv6Range.restricts_whole rfl ?linkLocal) <|
    or_congr (Ipv6Range.restricts_whole rfl ?siteLocal) (Ipv6Range.restricts_whole rfl ?multicast)
  case uniqueLocal => exact contains_masked rfl 9 (by decide) rfl (by decide) rfl
  case linkLocal => exact contains_masked rfl 6 (by decide) rfl (by decide) rfl
  case siteLocal => exact contains_masked rfl 6 (by decide) rfl (by decide) rfl
  case multicast => exact contains_masked rfl 8 (by decide) rfl (by decide) rfl

end Ipv6

/-- The filter restricts the addresses of the documented table and no others. -/
theorem ip_filter_eq_documented_table :
    (∀ o0 o1 o2 o3 : UInt8,
      isRestrictedIpv4Octets o0 o1 o2 o3 = true ↔ IsRestrictedIpv4 (ipv4ToNat o0 o1 o2 o3)) ∧
    ∀ s0 s1 s2 s3 s4 s5 s6 s7 : UInt16,
      isRestrictedIpv6Segments s0 s1 s2 s3 s4 s5 s6 s7 = true ↔
        IsRestrictedIpv6 (ipv6ToNat s0 s1 s2 s3 s4 s5 s6 s7) :=
  ⟨isRestrictedIpv4Octets_iff, isRestrictedIpv6Segments_iff⟩

end Skyauth
