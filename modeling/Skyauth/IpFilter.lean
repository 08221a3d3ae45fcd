import Skyauth.Lib.Address

/-!
# Restricted address ranges

The classification of IP addresses (`src/kernels/ip_filter.rs`), on the octets of an IPv4 address and
the 16-bit segments of an IPv6 address.
-/

namespace Skyauth

/-- An IP address (`std::net::IpAddr`). -/
inductive IpAddr where
  | v4 (o0 o1 o2 o3 : UInt8)
  | v6 (s0 s1 s2 s3 s4 s5 s6 s7 : UInt16)
  deriving Repr, DecidableEq

namespace IpAddr

def isIpv4 : IpAddr → Bool
  | v4 .. => true
  | v6 .. => false

/-- `127.0.0.0/8` and `::1`. -/
def isLoopback : IpAddr → Bool
  | v4 o0 _ _ _ => o0 == 127
  | v6 s0 s1 s2 s3 s4 s5 s6 s7 =>
    s0 == 0 && s1 == 0 && s2 == 0 && s3 == 0 && s4 == 0 && s5 == 0 && s6 == 0 && s7 == 1

/-- `str::parse::<IpAddr>`: the whole text is one address. -/
def parse (text : String) : Option IpAddr :=
  match Address.readIpv4Addr text.toList with
  | some ((o0, o1, o2, o3), rest) => if rest = [] then some (v4 o0 o1 o2 o3) else none
  | none =>
    match Address.readIpv6Addr text.toList with
    | some (s, rest) =>
      if rest = [] then some (v6 (s 0) (s 1) (s 2) (s 3) (s 4) (s 5) (s 6) (s 7)) else none
    | none => none

end IpAddr

def isRestrictedIpv4Octets (o0 o1 o2 _o3 : UInt8) : Bool :=
  o0 == 0
    || o0 == 10
    || (o0 == 100 && (o1 &&& 0xC0) == 64)
    || o0 == 127
    || (o0 == 169 && o1 == 254)
    || (o0 == 172 && o1 ≥ 16 && o1 ≤ 31)
    || (o0 == 192 && o1 == 0 && o2 == 0)
    || (o0 == 192 && o1 == 0 && o2 == 2)
    || (o0 == 192 && o1 == 88 && o2 == 99)
    || (o0 == 192 && o1 == 168)
    || (o0 == 198 && (o1 == 18 || o1 == 19))
    || (o0 == 198 && o1 == 51 && o2 == 100)
    || (o0 == 203 && o1 == 0 && o2 == 113)
    || (o0 ≥ 224 && o0 ≤ 239)
    || o0 ≥ 240

/-- The IPv4 check of the address embedded in two segments. -/
def isRestrictedEmbedded (hi lo : UInt16) : Bool :=
  isRestrictedIpv4Octets ((hi >>> 8) &&& 0xff).toUInt8 (hi &&& 0xff).toUInt8
    ((lo >>> 8) &&& 0xff).toUInt8 (lo &&& 0xff).toUInt8

def isRestrictedIpv6Segments (s0 s1 s2 s3 s4 s5 s6 s7 : UInt16) : Bool :=
  -- ::/128
  (s0 == 0 && s1 == 0 && s2 == 0 && s3 == 0 && s4 == 0 && s5 == 0 && s6 == 0 && s7 == 0)
    -- ::1/128
    || (s0 == 0 && s1 == 0 && s2 == 0 && s3 == 0 && s4 == 0 && s5 == 0 && s6 == 0 && s7 == 1)
    -- ::ffff:0:0/96, by the embedded address
    || (s0 == 0 && s1 == 0 && s2 == 0 && s3 == 0 && s4 == 0 && s5 == 0xffff &&
      isRestrictedEmbedded s6 s7)
    -- ::ffff:0:0:0/96
    || (s0 == 0 && s1 == 0 && s2 == 0 && s3 == 0 && s4 == 0xffff && s5 == 0)
    -- 64:ff9b::/96
    || (s0 == 0x0064 && s1 == 0xff9b && s2 == 0 && s3 == 0 && s4 == 0 && s5 == 0)
    -- 2001:db8::/32
    || (s0 == 0x2001 && s1 == 0x0db8)
    -- 2001::/32
    || (s0 == 0x2001 && s1 == 0)
    -- 2002::/16, by the embedded address
    || (s0 == 0x2002 && isRestrictedEmbedded s1 s2)
    -- fc00::/7
    || (s0 &&& 0xfe00) == 0xfc00
    -- fe80::/10
    || (s0 &&& 0xffc0) == 0xfe80
    -- fec0::/10
    || (s0 &&& 0xffc0) == 0xfec0
    -- ff00::/8
    || (s0 &&& 0xff00) == 0xff00

def isRestrictedIp : IpAddr → Bool
  | .v4 o0 o1 o2 o3 => isRestrictedIpv4Octets o0 o1 o2 o3
  | .v6 s0 s1 s2 s3 s4 s5 s6 s7 => isRestrictedIpv6Segments s0 s1 s2 s3 s4 s5 s6 s7

end Skyauth
