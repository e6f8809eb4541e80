import BroadcastLink.Proofs.Packet.Layout

/-!
# Every stream is laid out in one way

Whatever bytes arrive, they are packets with noise between them and an unfinished rest, in one way
only. So a framer neither loses bytes nor invents any: each byte is in a packet lifted, in the noise
thrown away or in the rest. A payload too long for the two bytes of its length is no part of a
layout: on the wire its packet cannot be told from a shorter one with other bytes behind it.
-/

namespace BroadcastLink

theorem wordOf_le (high low : UInt8) : wordOf high low ≤ 65535 := by
  have hhigh := high.toNat_lt
  have hlow := low.toNat_lt
  rw [wordOf]
  omega

/-- A length read off its bytes is written back as the same bytes. -/
theorem lengthBytes_wordOf (high low : UInt8) : lengthBytes (wordOf high low) = [high, low] := by
  have hlow := low.toNat_lt
  have hdiv : wordOf high low / 256 = high.toNat := by
    rw [wordOf]
    omega
  have hmod : UInt8.ofNat (wordOf high low) = low := by
    apply UInt8.toNat_inj.mp
    rw [UInt8.toNat_ofNat', wordOf]
    omega
  rw [lengthBytes, hdiv, hmod, UInt8.ofNat_toNat]

/-- A header with enough bytes behind it begins a packet. -/
theorem eq_encode_append {kind high low : UInt8} {held : Bytes}
    (hfull : wordOf high low ≤ held.length) :
    packetDelimiter :: kind :: high :: low :: held =
      (Packet.mk kind (held.take (wordOf high low))).encode ++ held.drop (wordOf high low) := by
  rw [Packet.encode, List.length_take, Nat.min_eq_left hfull, lengthBytes_wordOf]
  simp only [List.cons_append, List.nil_append, List.take_append_drop]

/-- What is held of an unfinished packet is less than the longest payload. -/
theorem Unfinished.length_le {rest held : Bytes} {state : FramerState}
    (h : Unfinished rest state held) : held.length ≤ 65534 := by
  cases h with
  | nothing => exact Nat.zero_le 65534
  | header hshort =>
    rw [packetHeaderLength] at hshort
    omega
  | @payload kind high low held hshort =>
    have hword := wordOf_le high low
    omega

namespace Layout

/-! ## There is a layout -/

theorem isNoise_takeWhile (bytes : Bytes) : IsNoise (bytes.takeWhile (· != packetDelimiter)) := by
  intro hmem
  simpa using List.mem_takeWhile_imp hmem

/-- Noise alone is a layout without packets. -/
theorem sound_of_noise {noise : Bytes} (h : IsNoise noise) : (Layout.mk [] noise).Sound := by
  refine ⟨fun g hg => ?_, fun p hp => ?_⟩
  · rwa [List.mem_singleton.mp hg]
  · exact absurd hp List.not_mem_nil

/-- Behind its noise a stream is unfinished, or begins with a packet. -/
theorem beginning_of_stream (stream : Bytes) :
    ∃ noise rest, IsNoise noise ∧ stream = noise ++ rest ∧
      ((∃ state held, Unfinished rest state held) ∨
        ∃ (p : Packet) (more : Bytes), p.Fits ∧ rest = p.encode ++ more) := by
  refine ⟨stream.takeWhile (· != packetDelimiter), stream.dropWhile (· != packetDelimiter),
    isNoise_takeWhile stream, List.takeWhile_append_dropWhile.symm, ?_⟩
  rcases hrest : stream.dropWhile (· != packetDelimiter) with _ | ⟨b, tail⟩
  · exact .inl ⟨_, _, .nothing⟩
  obtain rfl := Framer.head_of_skipNoise hrest
  match tail with
  | [] | [_] | [_, _] => exact .inl ⟨_, _, .header (by simp [packetHeaderLength])⟩
  | kind :: high :: low :: held =>
    rcases Nat.lt_or_ge held.length (wordOf high low) with hshort | hfull
    · exact .inl ⟨_, _, .payload hshort⟩
    · exact .inr ⟨_, _, Nat.le_trans (List.length_take_le _ _) (wordOf_le high low),
        eq_encode_append hfull⟩

/-- Every stream is laid out, up to something unfinished. -/
theorem exists_of_stream (stream : Bytes) :
    ∃ (l : Layout) (rest : Bytes) (state : FramerState) (held : Bytes),
      l.Sound ∧ stream = l.bytes ++ rest ∧ Unfinished rest state held := by
  -- By induction on the length: what stands behind a packet is shorter than the stream.
  induction hlen : stream.length using Nat.strong_induction_on generalizing stream with
  | _ n ih =>
    obtain ⟨noise, rest, hnoise, hstream, hbegins⟩ := beginning_of_stream stream
    rcases hbegins with ⟨state, held, hunfinished⟩ | ⟨p, more, hfits, rfl⟩
    · exact ⟨⟨[], noise⟩, rest, state, held, sound_of_noise hnoise, hstream, hunfinished⟩
    · have hless : more.length < n := by
        rw [← hlen, hstream, List.length_append, List.length_append, Packet.encode,
          List.length_cons]
        omega
      obtain ⟨⟨runs, last⟩, rest, state, held, hsound, hmore, hunfinished⟩ := ih _ hless more rfl
      refine ⟨⟨(noise, p) :: runs, last⟩, rest, state, held,
        sound_cons.mpr ⟨hnoise, hfits, hsound⟩, ?_, hunfinished⟩
      rw [bytes_cons, List.append_assoc, List.append_assoc, ← hmore, hstream]

/-! ## There is no other -/

/-- Of two layouts of one stream, each with something unfinished behind it, neither differs from
the other. -/
theorem unique_of_stream {l l' : Layout} {rest rest' held held' : Bytes}
    {state state' : FramerState} (hl : l.Sound) (hl' : l'.Sound)
    (h : Unfinished rest state held) (h' : Unfinished rest' state' held')
    (hsame : l.bytes ++ rest = l'.bytes ++ rest') : l = l' ∧ rest = rest' := by
  -- By induction on the packets of the first: a framer that is given the stream throws the noise of
  -- both away and lifts the first packet of both.
  obtain ⟨runs, last⟩ := l
  obtain ⟨runs', last'⟩ := l'
  induction runs generalizing runs' with
  | nil =>
    have hnext := Framer.next_of_unfinished hl.noise_last h 0
    cases runs' with
    | nil =>
      have hnext' := Framer.next_of_unfinished hl'.noise_last h' 0
      rw [bytes_nil, bytes_nil] at hsame
      rw [hsame, hnext'] at hnext
      obtain ⟨hframer, -⟩ := Prod.mk.inj hnext
      have hlength : last.length = last'.length := by
        have := congrArg Framer.discarded hframer
        dsimp only at this
        omega
      obtain ⟨rfl, hrest⟩ := List.append_inj hsame hlength
      exact ⟨rfl, hrest⟩
    | cons run' runs' =>
      obtain ⟨noise', p'⟩ := run'
      obtain ⟨hnoise', hfits', -⟩ := sound_cons.mp hl'
      rw [bytes_nil, bytes_cons, List.append_assoc, List.append_assoc] at hsame
      rw [hsame, Framer.next_of_run hnoise' hfits'] at hnext
      simp at hnext
  | cons run runs ih =>
    obtain ⟨noise, p⟩ := run
    obtain ⟨hnoise, hfits, hsound⟩ := sound_cons.mp hl
    rw [bytes_cons, List.append_assoc, List.append_assoc] at hsame
    have hnext := Framer.next_of_run hnoise hfits ((Layout.mk runs last).bytes ++ rest) 0
    cases runs' with
    | nil =>
      rw [bytes_nil] at hsame
      rw [hsame, Framer.next_of_unfinished hl'.noise_last h'] at hnext
      simp at hnext
    | cons run' runs' =>
      obtain ⟨noise', p'⟩ := run'
      obtain ⟨hnoise', hfits', hsound'⟩ := sound_cons.mp hl'
      rw [bytes_cons, List.append_assoc, List.append_assoc] at hsame
      rw [hsame, Framer.next_of_run hnoise' hfits'] at hnext
      obtain ⟨hframer, hpacket⟩ := Prod.mk.inj hnext
      obtain rfl : p' = p := Option.some.inj hpacket
      have hlength : noise.length = noise'.length := by
        have := congrArg Framer.discarded hframer
        dsimp only at this
        omega
      obtain ⟨rfl, -⟩ := List.append_inj hsame hlength
      obtain ⟨hlayout, hrest⟩ :=
        ih hsound runs' hsound' (congrArg Framer.buffer hframer).symm
      refine ⟨?_, hrest⟩
      obtain ⟨hruns, hlast⟩ := Layout.mk.inj hlayout
      rw [hruns, hlast]

end Layout

/-- Framing loses and invents no bytes. Whatever is fed to a new framer, and however it is cut, the
stream is the packets lifted, each with the noise before it, the noise behind them and an unfinished
rest: the noise is as long as the framer counts, and the framer stands and holds what the rest says.
There is no other such layout, and what is held is always less than the longest payload. -/
theorem Framer.feedAll_partitions (reads : List Bytes) :
    let fed := ({} : Framer).feedAll reads
    (∃ (l : Layout) (rest : Bytes),
      l.Sound ∧ reads.flatten = l.bytes ++ rest ∧ l.packets = fed.2 ∧
        fed.1.discarded = l.noiseLength ∧ Unfinished rest fed.1.state fed.1.buffer ∧
        ∀ (l' : Layout) (rest' : Bytes) (state' : FramerState) (held' : Bytes),
          l'.Sound → Unfinished rest' state' held' → reads.flatten = l'.bytes ++ rest' →
            l' = l ∧ rest' = rest) ∧
      fed.1.buffered ≤ 65534 := by
  intro fed
  obtain ⟨l, rest, state, held, hsound, hstream, hunfinished⟩ :=
    Layout.exists_of_stream reads.flatten
  have hfed : fed = (⟨held, state, 0 + l.noiseLength⟩, l.packets) :=
    feedAll_of_layout hsound hunfinished 0 hstream
  rw [hfed]
  refine ⟨⟨l, rest, hsound, hstream, rfl, Nat.zero_add _, hunfinished, ?_⟩,
    hunfinished.length_le⟩
  intro l' rest' state' held' hsound' hunfinished' hstream'
  exact Layout.unique_of_stream hsound' hsound hunfinished' hunfinished (hstream' ▸ hstream)

/-- An empty packet between noise, and behind it a header with one byte missing. -/
example :
    let fed := ({} : Framer).feedAll [[7, 0, 5], [0, 0, 8, 0, 9, 0]]
    fed.2 = [⟨5, []⟩] ∧ fed.1 = ⟨[0, 9, 0], .awaitingHeader, 2⟩ := by
  cbv

end BroadcastLink
