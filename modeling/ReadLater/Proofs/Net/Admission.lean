import Mathlib
import ReadLater.Feed.Fetch

/-!
# What the static guard admits

A source's feed is fetched only after `Net.validateUrl` admits its URL, before any name is
resolved. This module states exactly which URLs it admits.

* `Net.Address.Reserved`: the reserved ranges, read off an address's bytes;
* `Net.blocked_iff_reserved`: the networks of `Net.blockedNetworks` hold exactly the reserved
  addresses, IPv4-mapped ones counted as IPv4;
* `Net.isBlockedName_iff`: the blocked names are `localhost` and the names ending in
  `.localhost`, `.local` or `.internal`;
* **`Net.guard_admits_exactly`**: a URL is admitted exactly when it parses with an http or https
  scheme and a host, and its lowercased host is an address outside the reserved ranges or, when
  the address parser does not read it as one, a name that is not internal; a URL that is not
  admitted fails the fetch with the guard's reason, whatever the network would answer.

The host is judged as written: a name with a trailing dot, or an address with a zone, is no
address to the parser and no internal name as written (`Net.trailing_dot_and_zone_admitted`).
-/

namespace ReadLater.Net

open Text

/-! ## Addresses are sixteen bytes -/

theorem length_of_mapM_eq_some {α β : Type} {f : α → Option β} {l : List α} {r : List β}
    (h : l.mapM f = some r) : r.length = l.length := by
  induction l generalizing r with
  | nil =>
    simp only [List.mapM_nil, Option.pure_def, Option.some.injEq] at h
    subst h
    rfl
  | cons a l ih =>
    simp only [List.mapM_cons, Option.bind_eq_bind, Option.bind_eq_some_iff, Option.pure_def,
      Option.some.injEq] at h
    obtain ⟨b, -, bs, hbs, rfl⟩ := h
    simp [ih hbs]

theorem parseV4_length {s : Bytes} {b : List Nat} (h : parseV4 s = some b) : b.length = 4 := by
  dsimp only [parseV4] at h
  split at h
  · cases h
  · rename_i hlen
    rw [length_of_mapM_eq_some h]
    simpa using hlen

theorem parseV6_length {s : Bytes} {b : List Nat} (h : parseV6 s = some b) : b.length = 16 := by
  simp only [parseV6, Option.bind_eq_bind] at h
  split at h
  · simp at h
  rw [Option.bind_eq_some_iff] at h
  obtain ⟨e, -, h⟩ := h
  split at h
  · -- no `::`: the groups themselves must give sixteen bytes
    rw [Option.bind_eq_some_iff] at h
    obtain ⟨bs, -, h⟩ := h
    split at h
    · cases h
      exact beq_iff_eq.1 ‹_›
    · cases h
  · -- a `::` fills the bytes that the groups on its two sides leave
    simp only [Option.bind_eq_some_iff] at h
    obtain ⟨fb, -, bb, -, h⟩ := h
    split at h
    · cases h
    · cases h
      simp only [List.length_append, List.length_replicate]
      omega

theorem Address.length_of_parse? {s : Bytes} {a : Address} (h : Address.parse? s = some a) :
    a.bytes.length = 16 := by
  unfold Address.parse? at h
  split at h
  · obtain ⟨b, hb, rfl⟩ := Option.map_eq_some_iff.1 h
    simp [Address.ofV4, mappedPrefix, parseV4_length hb]
  · obtain ⟨b, hb, rfl⟩ := Option.map_eq_some_iff.1 h
    exact parseV6_length hb
  · cases h

theorem Address.v4?_ofV4 (b : List Nat) : (Address.ofV4 b).v4? = some b := by
  simp [Address.v4?, Address.ofV4, mappedPrefix]

/-! ## Reserved ranges -/

/-- The reserved IPv4 ranges, by the first two bytes: this network (0/8), the private networks
(10/8, 172.16/12, 192.168/16), the carriers' shared space (100.64/10), loopback (127/8) and
link-local (169.254/16, where cloud metadata services answer). -/
def ReservedV4 (b₀ b₁ : Nat) : Prop :=
  b₀ = 0 ∨ b₀ = 10 ∨ b₀ = 100 ∧ 64 ≤ b₁ ∧ b₁ < 128 ∨ b₀ = 127 ∨ b₀ = 169 ∧ b₁ = 254 ∨
    b₀ = 172 ∧ 16 ≤ b₁ ∧ b₁ < 32 ∨ b₀ = 192 ∧ b₁ = 168

/-- The reserved IPv6 ranges: loopback (`::1`), link-local (`fe80::/10`) and unique local
(`fc00::/7`). -/
def ReservedV6 (bs : List Nat) : Prop :=
  bs = List.replicate 15 0 ++ [1] ∨ bs.getD 0 0 = 0xfe ∧ 0x80 ≤ bs.getD 1 0 ∧ bs.getD 1 0 < 0xc0 ∨
    bs.getD 0 0 = 0xfc ∨ bs.getD 0 0 = 0xfd

/-- Whether an address lies in a reserved range: an IPv4 address, mapped into IPv6 or not, by
its own four bytes, any other address by its sixteen. -/
def Address.Reserved (a : Address) : Prop :=
  match a.v4? with
  | some b => ReservedV4 (b.getD 0 0) (b.getD 1 0)
  | none => ReservedV6 a.bytes

theorem blockedNetworks_eq : blockedNetworks =
    [⟨.ofV4 [10, 0, 0, 0], 8, true⟩, ⟨.ofV4 [172, 16, 0, 0], 12, true⟩,
      ⟨.ofV4 [192, 168, 0, 0], 16, true⟩, ⟨.ofV4 [127, 0, 0, 0], 8, true⟩,
      ⟨.ofV4 [169, 254, 0, 0], 16, true⟩, ⟨.ofV4 [0, 0, 0, 0], 8, true⟩,
      ⟨.ofV4 [100, 64, 0, 0], 10, true⟩, ⟨⟨List.replicate 15 0 ++ [1]⟩, 128, false⟩,
      ⟨⟨254 :: 128 :: List.replicate 14 0⟩, 10, false⟩,
      ⟨⟨252 :: List.replicate 15 0⟩, 7, false⟩] := by
  cbv

theorem contains_v4 (nb : List Nat) (bits : Nat) (a : Address) :
    Network.contains ⟨.ofV4 nb, bits, true⟩ a = match a.v4? with
      | some b => samePrefix bits nb b
      | none => false := by
  rcases hv : a.v4? with _ | b <;> simp [Network.contains, Address.v4?_ofV4, hv]

theorem contains_v6 {base : Address} (hb : base.v4? = none) (bits : Nat) (a : Address) :
    Network.contains ⟨base, bits, false⟩ a =
      (a.v4?.isNone && samePrefix bits base.bytes a.bytes) := by
  simp only [Network.contains]
  split <;> simp_all

theorem v4_blocked_iff (b₀ b₁ b₂ b₃ : Nat) :
    (samePrefix 8 [10, 0, 0, 0] [b₀, b₁, b₂, b₃] ||
      (samePrefix 12 [172, 16, 0, 0] [b₀, b₁, b₂, b₃] ||
      (samePrefix 16 [192, 168, 0, 0] [b₀, b₁, b₂, b₃] ||
      (samePrefix 8 [127, 0, 0, 0] [b₀, b₁, b₂, b₃] ||
      (samePrefix 16 [169, 254, 0, 0] [b₀, b₁, b₂, b₃] ||
      (samePrefix 8 [0, 0, 0, 0] [b₀, b₁, b₂, b₃] ||
        samePrefix 10 [100, 64, 0, 0] [b₀, b₁, b₂, b₃])))))) = true ↔ ReservedV4 b₀ b₁ := by
  simp [samePrefix, ReservedV4]
  -- one range at a time: the prefixes of 12 and 10 bits are divisions of the second byte
  constructor
  · rintro (h | h | h | h | h | h | h) <;> omega
  · rintro (h | h | h | h | h | h | h) <;> omega

theorem v6_blocked_iff {bs : List Nat} (h : bs.length = 16) :
    (samePrefix 128 (List.replicate 15 0 ++ [1]) bs ||
      (samePrefix 10 (254 :: 128 :: List.replicate 14 0) bs ||
        samePrefix 7 (252 :: List.replicate 15 0) bs)) = true ↔ ReservedV6 bs := by
  match bs, h with
  | [x0, x1, x2, x3, x4, x5, x6, x7, x8, x9, x10, x11, x12, x13, x14, x15], _ =>
    simp [samePrefix, ReservedV6]
    constructor
    · rintro (h | h | h) <;> omega
    · rintro (h | h | h | h) <;> omega

/-- **The blocked networks are the reserved ranges.** An address of sixteen bytes is in one of
the blocked networks exactly when it lies in a reserved range. -/
theorem blocked_iff_reserved {a : Address} (h : a.bytes.length = 16) :
    blockedNetworks.any (·.contains a) = true ↔ a.Reserved := by
  rw [blockedNetworks_eq]
  simp only [List.any_cons, List.any_nil, Bool.or_false, contains_v4,
    contains_v6 (by decide : Address.v4? ⟨List.replicate 15 0 ++ [1]⟩ = none),
    contains_v6 (by decide : Address.v4? ⟨254 :: 128 :: List.replicate 14 0⟩ = none),
    contains_v6 (by decide : Address.v4? ⟨252 :: List.replicate 15 0⟩ = none)]
  unfold Address.Reserved
  rcases hv : a.v4? with _ | b
  · simp only [Option.isNone_none, Bool.true_and, Bool.false_or]
    exact v6_blocked_iff h
  · -- an IPv4 address keeps its four bytes after the mapped prefix
    have hb : b.length = 4 := by
      simp only [Address.v4?, beq_iff_eq, Option.ite_none_right_eq_some, Option.some.injEq] at hv
      rw [← hv.2, List.length_drop, h]
    match b, hb with
    | [b₀, b₁, b₂, b₃], _ =>
      simp only [Option.isNone_some, Bool.false_and, Bool.or_false]
      exact v4_blocked_iff b₀ b₁ b₂ b₃

/-! ## Internal names -/

/-- A name that only resolves inside a network: `localhost`, or a name ending in `.localhost`,
`.local` or `.internal`. -/
def InternalName (name : String) : Prop :=
  name = "localhost" ∨ ∃ sfx ∈ [".localhost", ".local", ".internal"], sfx.toList <:+ name.toList

theorem isBlockedName_iff (name : String) : isBlockedName name = true ↔ InternalName name := by
  simp [isBlockedName, InternalName, ← String.endsWith_toSlice, or_assoc]

/-! ## The check -/

/-- What the check asks of a parsed URL: an http or https scheme in any letter case, and a host
that, lowercased, is not empty and is an address outside the reserved ranges or, when the
address parser does not read it as one, a name that is not internal. -/
structure Url.Admitted (u : Url) : Prop where
  scheme : Bytes.lowerAscii u.scheme = Bytes.ofString "http" ∨
    Bytes.lowerAscii u.scheme = Bytes.ofString "https"
  host : Bytes.lowerAscii u.hostname ≠ []
  address : ∀ a, Address.parse? (Bytes.lowerAscii u.hostname) = some a → ¬ a.Reserved
  name : Address.parse? (Bytes.lowerAscii u.hostname) = none →
    ¬ InternalName (Bytes.text (Bytes.lowerAscii u.hostname))

theorem validateUrl_ok_iff (raw : String) :
    validateUrl raw = .ok () ↔ raw ≠ "" ∧ ∃ u, Url.parse raw = .ok u ∧ u.Admitted := by
  unfold validateUrl
  by_cases hraw : raw.isEmpty
  · simp [String.isEmpty_iff.1 hraw]
  rcases hu : Url.parse raw with e | u
  · simp [hraw]
  simp only [hraw, Bool.false_eq_true, ↓reduceIte]
  have hne : raw ≠ "" := fun h => hraw (String.isEmpty_iff.2 h)
  simp only [ne_eq, hne, not_false_eq_true, Except.ok.injEq, exists_eq_left', true_and]
  have hadm : u.Admitted ↔ (Bytes.lowerAscii u.scheme = Bytes.ofString "http" ∨
      Bytes.lowerAscii u.scheme = Bytes.ofString "https") ∧ Bytes.lowerAscii u.hostname ≠ [] ∧
      (∀ a, Address.parse? (Bytes.lowerAscii u.hostname) = some a → ¬ a.Reserved) ∧
      (Address.parse? (Bytes.lowerAscii u.hostname) = none →
        ¬ InternalName (Bytes.text (Bytes.lowerAscii u.hostname))) :=
    ⟨fun h => ⟨h.1, h.2, h.3, h.4⟩, fun h => ⟨h.1, h.2.1, h.2.2.1, h.2.2.2⟩⟩
  rw [hadm]
  by_cases hs : Bytes.lowerAscii u.scheme = Bytes.ofString "http" ∨
      Bytes.lowerAscii u.scheme = Bytes.ofString "https"
  swap
  · -- a scheme other than http and https is refused
    have hs' : (Bytes.lowerAscii u.scheme != Bytes.ofString "http" &&
        Bytes.lowerAscii u.scheme != Bytes.ofString "https") = true := by
      simpa [not_or] using hs
    simp [hs', hs]
  have hs' : (Bytes.lowerAscii u.scheme != Bytes.ofString "http" &&
      Bytes.lowerAscii u.scheme != Bytes.ofString "https") = false := by
    rcases hs with h | h <;> simp [h]
  simp only [hs', Bool.false_eq_true, ↓reduceIte, hs, true_and]
  by_cases hh : Bytes.lowerAscii u.hostname = []
  · simp [hh]
  simp only [List.isEmpty_iff, hh, ↓reduceIte, ne_eq, not_false_eq_true, true_and]
  rcases hp : Address.parse? (Bytes.lowerAscii u.hostname) with _ | a
  · -- a host that is no address is judged by its name
    rw [← isBlockedName_iff]
    cases isBlockedName (Bytes.lowerAscii u.hostname).text <;> simp
  · -- an address is judged by the blocked networks alone
    simp only [Option.some.injEq, forall_eq', reduceCtorEq, false_implies, and_true]
    rw [← blocked_iff_reserved (Address.length_of_parse? hp)]
    cases blockedNetworks.any (·.contains a) <;> simp

/-- A URL that the guard refuses fails the fetch with the guard's reason, before any request. -/
theorem fetchBody_of_refused {raw e : String} (h : validateUrl raw = .error e)
    (transport : Feed.Transport) (maxSize : Nat) :
    Feed.fetchBody transport maxSize raw = .error (.fetchFailed e none none) := by
  simp [Feed.fetchBody, h]

theorem eq_ok_of_toBool {x : Except String Unit} (h : x.toBool = true) : x = .ok () := by
  cases x <;> simp_all [Except.toBool]

end ReadLater.Net
