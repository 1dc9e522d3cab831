import Mathlib
import VoiceLink.Audio.Packet

/-!
# How a packet is laid out

`Packet.frames?` takes a packet apart. Here it is put together: `Packet.Holds` says which bytes some
frames may stand in, frame by frame and field by field. A packet has only one set of frames, but the
same frames have many packets, since padding can be spelled in several ways and hold anything.

The two agree (`frames?_eq_some_iff`), so a packet lasts some time exactly when it holds frames
(`ticks?_eq_some_iff`).

The way back is proved part by part. Every field and every kind of body has one lemma, which says
that it is read from some bytes exactly when they begin with a spelling of it; the codes and the
packet put these together. So both directions of the main theorem come from the same lemmas.
-/

namespace VoiceLink.Packet

/-! ## Putting a packet together

Lengths have one spelling each and are a function. Padding has several, and bodies of frames of one
length do not show where one ends, so these are relations. -/

/-- The length of a frame: up to 251 it fills one byte, beyond that two. -/
def lengthBytes (n : Nat) : List UInt8 :=
  if n < 252 then [.ofNat n] else [.ofNat (252 + n % 4), .ofNat ((n - 252) / 4)]

/-- An amount of padding: 254 bytes for every byte 255, and those that the last byte counts. -/
inductive PaddingBytes : List UInt8 → Nat → Prop
  | last {b : UInt8} (h : b ≠ 255) : PaddingBytes [b] b.toNat
  | more {field : List UInt8} {n : Nat} (h : PaddingBytes field n) :
      PaddingBytes (255 :: field) (254 + n)

/-- Some frames one after the other. Where they vary, the lengths of all but the last stand in
front of them; elsewhere they are as long as one another. -/
inductive Body : Bool → List (List UInt8) → List UInt8 → Prop
  | alike {frames : List (List UInt8)} {n : Nat} (same : ∀ f ∈ frames, f.length = n) :
      Body false frames frames.flatten
  | varying {frames : List (List UInt8)} {last : List UInt8}
      (short : ∀ f ∈ frames, f.length ≤ maxFrameBytes) :
      Body true (frames ++ [last])
        ((frames.map List.length).flatMap lengthBytes ++ (frames ++ [last]).flatten)

/-- What stands behind the first byte, whose low bits are the code: one frame, two frames, or any
number of them, which is counted then. Only frames that are counted can have padding behind them. -/
inductive Laid : Nat → List (List UInt8) → List UInt8 → Prop
  | one (frame : List UInt8) : Laid 0 [frame] frame
  | pair {frames : List (List UInt8)} {bytes : List UInt8} (two : frames.length = 2)
      (body : Body false frames bytes) : Laid 1 frames bytes
  | varyingPair {frames : List (List UInt8)} {bytes : List UInt8} (two : frames.length = 2)
      (body : Body true frames bytes) : Laid 2 frames bytes
  | counted {flags : UInt8} {field padding bytes : List UInt8} {frames : List (List UInt8)}
      (count : flags.toNat % 64 = frames.length) (some : frames ≠ [])
      (body : Body (128 ≤ flags.toNat) frames bytes)
      (padded : if 64 ≤ flags.toNat % 128 then PaddingBytes field padding.length
        else field = [] ∧ padding = []) :
      Laid 3 frames (flags :: (field ++ (bytes ++ padding)))

/-- A packet of some frames. Its first byte says how long they last; none is too long, and all of
them last no longer than 120 milliseconds. -/
structure Holds (p : Packet) (config : Nat) (frames : List (List UInt8)) : Prop where
  laid : ∃ toc bytes, p = toc :: bytes ∧ toc.toNat / 8 = config ∧
    Laid (toc.toNat % 4) frames bytes
  short : ∀ f ∈ frames, f.length ≤ maxFrameBytes
  brief : frames.length * frameTicks config ≤ maxTicks

variable {p : Packet} {bytes rest : List UInt8} {n : Nat} {lengths : List Nat}

/-! ## Fields

A field is read off the front of the bytes; `rest` is what stands behind it. -/

theorem lengthField_lengthBytes (h : n ≤ maxFrameBytes) (rest : List UInt8) :
    lengthField (lengthBytes n ++ rest) = some (n, rest) := by
  unfold maxFrameBytes at h
  unfold lengthBytes
  split
  · next short =>
    have byte : (UInt8.ofNat n).toNat = n := by
      rw [UInt8.toNat_ofNat']
      omega
    simp only [List.singleton_append, lengthField, byte, short, ↓reduceIte]
  · next long =>
    have first : (UInt8.ofNat (252 + n % 4)).toNat = 252 + n % 4 := by
      rw [UInt8.toNat_ofNat']
      omega
    have second : (UInt8.ofNat ((n - 252) / 4)).toNat = (n - 252) / 4 := by
      rw [UInt8.toNat_ofNat']
      omega
    have two : ¬252 + n % 4 < 252 := by omega
    have whole : 4 * ((n - 252) / 4) + (252 + n % 4) = n := by omega
    simp only [List.cons_append, List.nil_append, lengthField, first, second, two, ↓reduceIte,
      whole]

theorem lengthField_eq_some_iff :
    lengthField bytes = some (n, rest) ↔ n ≤ maxFrameBytes ∧ bytes = lengthBytes n ++ rest := by
  constructor
  · intro h
    unfold lengthField at h
    split at h
    · cases h
    · next b tail =>
      have byte := b.toNat_lt
      split at h
      · next short =>
        cases h
        refine ⟨by unfold maxFrameBytes; omega, ?_⟩
        rw [lengthBytes, if_pos short, UInt8.ofNat_toNat]
        rfl
      · next long =>
        split at h
        · cases h
        · next c tail =>
          cases h
          have byte' := c.toNat_lt
          -- the two bytes are the remainder and the quotient of what they add up to
          have first : 252 + (4 * c.toNat + b.toNat) % 4 = b.toNat := by omega
          have second : (4 * c.toNat + b.toNat - 252) / 4 = c.toNat := by omega
          refine ⟨by unfold maxFrameBytes; omega, ?_⟩
          rw [lengthBytes, if_neg (by omega), first, second, UInt8.ofNat_toNat, UInt8.ofNat_toNat]
          rfl
  · rintro ⟨h, rfl⟩
    exact lengthField_lengthBytes h rest

theorem lengthFields_eq_some_iff {k : Nat} :
    lengthFields k bytes = some (lengths, rest) ↔
      lengths.length = k ∧ (∀ n ∈ lengths, n ≤ maxFrameBytes) ∧
        bytes = lengths.flatMap lengthBytes ++ rest := by
  induction k generalizing bytes lengths with
  | zero =>
      constructor
      · intro h
        cases h
        exact ⟨rfl, by simp, rfl⟩
      · rintro ⟨none, -, rfl⟩
        rw [List.length_eq_zero_iff.1 none]
        rfl
  | succ k ih =>
      constructor
      · intro h
        simp only [lengthFields, Option.bind_eq_bind] at h
        obtain ⟨⟨n, behind⟩, first, h⟩ := Option.bind_eq_some_iff.1 h
        obtain ⟨⟨others, last⟩, more, h⟩ := Option.bind_eq_some_iff.1 h
        cases h
        obtain ⟨short, rfl⟩ := lengthField_eq_some_iff.1 first
        obtain ⟨count, shorts, rfl⟩ := ih.1 more
        refine ⟨by rw [List.length_cons, count], ?_, by simp⟩
        intro m hm
        rcases List.mem_cons.1 hm with rfl | hm
        · exact short
        · exact shorts m hm
      · rintro ⟨count, shorts, rfl⟩
        cases lengths with
        | nil => cases count
        | cons n lengths =>
            have first := lengthField_lengthBytes (shorts n List.mem_cons_self)
              (lengths.flatMap lengthBytes ++ rest)
            have more := ih.2 ⟨Nat.succ.inj count,
              fun m hm => shorts m (List.mem_cons_of_mem n hm), rfl⟩
            simp only [lengthFields, List.flatMap_cons, List.append_assoc, first, more,
              Option.bind_eq_bind, Option.bind_some]
            rfl

theorem paddingField_eq_some_iff :
    paddingField bytes = some (n, rest) ↔
      ∃ field, PaddingBytes field n ∧ bytes = field ++ rest := by
  constructor
  · intro h
    induction bytes generalizing n with
    | nil => cases h
    | cons b bytes ih =>
        unfold paddingField at h
        split at h
        · next more =>
          obtain ⟨⟨m, behind⟩, found, h⟩ := Option.bind_eq_some_iff.1 h
          cases h
          obtain ⟨field, spelled, rfl⟩ := ih found
          exact ⟨255 :: field, .more spelled, by rw [more]; rfl⟩
        · next last =>
          cases h
          exact ⟨[b], .last last, rfl⟩
  · rintro ⟨field, spelled, rfl⟩
    induction spelled with
    | last h => simp only [List.singleton_append, paddingField, h, ↓reduceIte]
    | more h ih =>
        simp only [List.cons_append, paddingField, ↓reduceIte, ih, Option.bind_eq_bind,
          Option.bind_some]
        rfl

/-! ## Frames

Readers of frames return lengths, and the frames themselves are what the bytes are when they are cut
at these lengths. -/

/-- Bytes can be cut into pieces of any lengths that add up. -/
theorem exists_flatten {lengths : List Nat} (h : lengths.sum = bytes.length) :
    ∃ frames : List (List UInt8), frames.map List.length = lengths ∧ frames.flatten = bytes :=
  ⟨lengths.splitLengths bytes, List.map_splitLengths_length _ _ h.le,
    List.flatten_splitLengths _ _ h.ge⟩

/-- Frames that are as long as one another share the bytes evenly. -/
theorem alike_eq_some_iff {count : Nat} (pos : count ≠ 0) :
    (if bytes.length % count = 0 then some (List.replicate count (bytes.length / count))
      else none) = some lengths ↔
      ∃ frames, Body false frames bytes ∧ frames.length = count ∧
        frames.map List.length = lengths := by
  constructor
  · intro h
    split at h
    · next even =>
      cases h
      have total : (List.replicate count (bytes.length / count)).sum = bytes.length := by
        rw [List.sum_replicate, smul_eq_mul]
        exact Nat.mul_div_cancel' (Nat.dvd_of_mod_eq_zero even)
      obtain ⟨frames, measured, rfl⟩ := exists_flatten total
      refine ⟨frames, .alike (n := frames.flatten.length / count) ?_, ?_, measured⟩
      · intro f hf
        have : f.length ∈ frames.map List.length := List.mem_map_of_mem hf
        rw [measured] at this
        exact List.eq_of_mem_replicate this
      · simpa using congrArg List.length measured
    · cases h
  · rintro ⟨frames, body, rfl, rfl⟩
    cases body with
    | @alike _ n same =>
        have measured : frames.map List.length = List.replicate frames.length n :=
          List.map_eq_replicate_iff.2 same
        have total : frames.flatten.length = frames.length * n := by
          rw [List.length_flatten, measured, List.sum_replicate, smul_eq_mul]
        rw [total, Nat.mul_mod_right, if_pos rfl,
          Nat.mul_div_cancel_left n (Nat.pos_of_ne_zero pos), measured]

/-- Of frames that vary, the last takes what the others leave. -/
theorem varying_eq_some_iff {k : Nat} :
    ((lengthFields k bytes).bind fun found => lastTakesRest found.1 found.2.length) =
        some lengths ↔
      ∃ frames, Body true frames bytes ∧ frames.length = k + 1 ∧
        frames.map List.length = lengths := by
  constructor
  · intro h
    obtain ⟨⟨firsts, behind⟩, found, rest⟩ := Option.bind_eq_some_iff.1 h
    obtain ⟨count, short, rfl⟩ := lengthFields_eq_some_iff.1 found
    simp only [lastTakesRest] at rest
    split at rest
    · next enough =>
      cases rest
      change firsts.sum ≤ behind.length at enough
      have total : (firsts ++ [behind.length - firsts.sum]).sum = behind.length := by
        rw [List.sum_append, List.sum_singleton]
        omega
      obtain ⟨frames, measured, rfl⟩ := exists_flatten total
      -- the last frame is the one whose length no field gives
      obtain ⟨others, tail, rfl, others_eq, tail_eq⟩ := List.map_eq_append_iff.1 measured
      obtain ⟨last, rfl⟩ : ∃ last, tail = [last] :=
        List.length_eq_one_iff.1 (by simpa using congrArg List.length tail_eq)
      subst others_eq
      refine ⟨others ++ [last], .varying ?_, ?_, measured⟩
      · intro f hf
        exact short f.length (List.mem_map_of_mem hf)
      · simpa using count
    · cases rest
  · rintro ⟨frames, body, count, rfl⟩
    cases body with
    | @varying frames last short =>
        have found : lengthFields k ((frames.map List.length).flatMap lengthBytes ++
            (frames ++ [last]).flatten) =
              some (frames.map List.length, (frames ++ [last]).flatten) := by
          refine lengthFields_eq_some_iff.2 ⟨by simpa using count, ?_, rfl⟩
          intro n hn
          obtain ⟨f, hf, rfl⟩ := List.mem_map.1 hn
          exact short f hf
        have total : (frames ++ [last]).flatten.length =
            (frames.map List.length).sum + last.length := by
          simp
        have enough : (frames.map List.length).foldr (· + ·) 0 ≤
            (frames ++ [last]).flatten.length := by
          rw [total]
          exact Nat.le_add_right _ _
        have left : (frames ++ [last]).flatten.length -
            (frames.map List.length).foldr (· + ·) 0 = last.length := by
          rw [total]
          exact Nat.add_sub_cancel_left _ _
        rw [found, Option.bind_some, lastTakesRest, if_pos enough, left]
        simp

/-! ## Packets

Counted frames are the long case, with padding in front of the frames that says how much of it
stands behind them. -/

/-- What is behind the flags begins with the amount of padding, where there is any. -/
theorem padding_eq_some_iff {padded : Prop} [Decidable padded] :
    (if padded then paddingField bytes else some (0, bytes)) = some (n, rest) ↔
      ∃ field, (if padded then PaddingBytes field n else field = [] ∧ n = 0) ∧
        bytes = field ++ rest := by
  by_cases h : padded
  · simp only [h, ↓reduceIte]
    exact paddingField_eq_some_iff
  · simp only [h, ↓reduceIte]
    constructor
    · intro same
      cases same
      exact ⟨[], ⟨rfl, rfl⟩, rfl⟩
    · rintro ⟨field, ⟨rfl, rfl⟩, rfl⟩
      rfl

theorem countedFrames_cons (flags : UInt8) (bytes : List UInt8) :
    countedFrames (flags :: bytes) =
      (if 64 ≤ flags.toNat % 128 then paddingField bytes else some (0, bytes)).bind fun found =>
        if found.2.length < found.1 then none
        else if flags.toNat % 64 = 0 then none
        else
          let body := found.2.take (found.2.length - found.1)
          if 128 ≤ flags.toNat then
            (lengthFields (flags.toNat % 64 - 1) body).bind fun found =>
              lastTakesRest found.1 found.2.length
          else if body.length % (flags.toNat % 64) = 0 then
            some (List.replicate (flags.toNat % 64) (body.length / (flags.toNat % 64)))
          else none := by
  simp only [countedFrames]
  split <;> rfl

/-- The frames that are counted stand between the flags and the padding. -/
theorem counted_eq_some_iff {count : Nat} (pos : count ≠ 0) {varying : Prop} [Decidable varying] :
    (if varying then
      (lengthFields (count - 1) bytes).bind fun found => lastTakesRest found.1 found.2.length
    else if bytes.length % count = 0 then some (List.replicate count (bytes.length / count))
    else none) = some lengths ↔
      ∃ frames, Body (decide varying) frames bytes ∧ frames.length = count ∧
        frames.map List.length = lengths := by
  by_cases h : varying
  · simp only [h, ↓reduceIte, decide_true]
    rw [varying_eq_some_iff, Nat.sub_one_add_one pos]
  · simp only [h, ↓reduceIte, decide_false]
    exact alike_eq_some_iff pos

theorem countedFrames_eq_some_iff :
    countedFrames bytes = some lengths ↔
      ∃ frames, Laid 3 frames bytes ∧ frames.map List.length = lengths := by
  constructor
  · intro h
    cases bytes with
    | nil => cases h
    | cons flags bytes =>
        rw [countedFrames_cons] at h
        obtain ⟨⟨n, rest⟩, found, counted⟩ := Option.bind_eq_some_iff.1 h
        obtain ⟨field, padded, rfl⟩ := padding_eq_some_iff.1 found
        dsimp only at counted
        split at counted
        · cases counted
        · next enough =>
          split at counted
          · cases counted
          · next pos =>
            obtain ⟨frames, body, count, measured⟩ := (counted_eq_some_iff pos).1 counted
            refine ⟨frames, ?_, measured⟩
            -- the padding is what is behind the frames, so its content is free and its length is
            -- not
            have padding : (rest.drop (rest.length - n)).length = n := by
              rw [List.length_drop]
              omega
            rw [← List.take_append_drop (rest.length - n) rest]
            refine .counted count.symm ?_ body ?_
            · rintro rfl
              exact pos count.symm
            · rw [← List.length_eq_zero_iff (l := rest.drop _), padding]
              exact padded
  · rintro ⟨frames, laid, measured⟩
    cases laid with
    | @counted flags field padding body frames count some laid padded =>
        have pos : flags.toNat % 64 ≠ 0 := by
          rw [count]
          exact List.length_eq_zero_iff.not.2 some
        rw [← List.length_eq_zero_iff (l := padding)] at padded
        have found := padding_eq_some_iff.2 ⟨field, padded, Eq.refl (field ++ (body ++ padding))⟩
        have enough : ¬(body ++ padding).length < padding.length := by
          rw [List.length_append]
          omega
        have rest : (body ++ padding).take ((body ++ padding).length - padding.length) = body := by
          rw [List.length_append, Nat.add_sub_cancel]
          exact List.take_left
        rw [countedFrames_cons, found, Option.bind_some]
        dsimp only
        rw [if_neg enough, if_neg pos, rest]
        exact (counted_eq_some_iff pos).2 ⟨frames, laid, count.symm, measured⟩

theorem framesOf_eq_some_iff {code : Nat} (h : code < 4) :
    framesOf code bytes = some lengths ↔
      ∃ frames, Laid code frames bytes ∧ frames.map List.length = lengths := by
  interval_cases code
  · -- one frame
    constructor
    · intro h
      cases h
      exact ⟨[bytes], .one bytes, rfl⟩
    · rintro ⟨frames, laid, rfl⟩
      cases laid
      rfl
  · -- two frames of one length
    have two : framesOf 1 bytes = if bytes.length % 2 = 0 then
        some (List.replicate 2 (bytes.length / 2)) else none := rfl
    rw [two, alike_eq_some_iff two_ne_zero]
    constructor
    · rintro ⟨frames, body, count, measured⟩
      exact ⟨frames, .pair count body, measured⟩
    · rintro ⟨frames, laid, measured⟩
      cases laid with
      | pair count body => exact ⟨frames, body, count, measured⟩
  · -- two frames, the first of which tells its length
    have two : framesOf 2 bytes =
        (lengthFields 1 bytes).bind fun found => lastTakesRest found.1 found.2.length := by
      simp only [framesOf, lengthFields, Option.bind_eq_bind]
      cases lengthField bytes <;> rfl
    rw [two, varying_eq_some_iff]
    constructor
    · rintro ⟨frames, body, count, measured⟩
      exact ⟨frames, .varyingPair count body, measured⟩
    · rintro ⟨frames, laid, measured⟩
      cases laid with
      | varyingPair count body => exact ⟨frames, body, count, measured⟩
  · exact countedFrames_eq_some_iff

/-- **A packet is taken apart as it was put together.** -/
theorem frames?_eq_some_iff :
    p.frames? = some lengths ↔
      ∃ config frames, p.Holds config frames ∧ frames.map List.length = lengths := by
  constructor
  · intro h
    cases p with
    | nil => cases h
    | cons toc bytes =>
        simp only [frames?] at h
        split at h
        · cases h
        · next found =>
          split at h
          · next sound =>
            cases h
            obtain ⟨frames, laid, rfl⟩ :=
              (framesOf_eq_some_iff (Nat.mod_lt _ (by decide))).1 found
            refine ⟨toc.toNat / 8, frames, ⟨⟨toc, bytes, rfl, rfl, laid⟩, ?_, ?_⟩, rfl⟩
            · simpa using sound.1
            · simpa using sound.2
          · cases h
  · rintro ⟨config, frames, ⟨⟨toc, bytes, rfl, rfl, laid⟩, short, brief⟩, rfl⟩
    have found := (framesOf_eq_some_iff (Nat.mod_lt _ (by decide))).2 ⟨frames, laid, rfl⟩
    simp only [frames?, found]
    exact if_pos ⟨by simpa using short, by simpa using brief⟩

/-- A packet lasts as long as its frames, and only packets that hold frames last. -/
theorem ticks?_eq_some_iff {ticks : Nat} :
    p.ticks? = some ticks ↔
      ∃ config frames, p.Holds config frames ∧ frames.length * frameTicks config = ticks := by
  cases p with
  | nil =>
      constructor
      · intro h
        cases h
      · rintro ⟨config, frames, ⟨⟨toc, bytes, none, -⟩, -⟩, -⟩
        cases none
  | cons toc bytes =>
      simp only [ticks?, Option.map_eq_some_iff, frames?_eq_some_iff]
      constructor
      · rintro ⟨lengths, ⟨config, frames, holds, rfl⟩, rfl⟩
        obtain ⟨toc', bytes', same, rfl, laid⟩ := holds.laid
        cases same
        exact ⟨_, frames, holds, by rw [List.length_map]⟩
      · rintro ⟨config, frames, holds, rfl⟩
        obtain ⟨toc', bytes', same, rfl, laid⟩ := holds.laid
        cases same
        exact ⟨_, ⟨_, frames, holds, rfl⟩, by rw [List.length_map]⟩

end VoiceLink.Packet
