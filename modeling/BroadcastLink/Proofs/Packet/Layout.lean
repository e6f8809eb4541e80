import Mathlib.Algebra.GroupWithZero.Nat
import Mathlib.Data.List.TakeWhile
import BroadcastLink.Proofs.Packet.Fragments

/-!
# How a stream is laid out

A stream carries packets, with noise before, between and behind them: bytes without a delimiter, so
that no packet begins there. It may end in the middle of a packet. A framer that is between packets
lifts exactly the packets laid out, counts exactly the noise as thrown away, and holds exactly what
is unfinished. Delimiters inside a payload are not looked at, since the length says where it ends.
-/

namespace BroadcastLink

/-! ## Noise, packets and what is unfinished -/

/-- Bytes in which no packet begins. -/
def IsNoise (bytes : Bytes) : Prop := packetDelimiter ∉ bytes

instance (bytes : Bytes) : Decidable (IsNoise bytes) :=
  inferInstanceAs (Decidable (packetDelimiter ∉ bytes))

/-- The payload is no longer than the two bytes of its length can tell. -/
def Packet.Fits (p : Packet) : Prop := p.payload.length ≤ 65535

instance (p : Packet) : Decidable p.Fits :=
  inferInstanceAs (Decidable (p.payload.length ≤ 65535))

/-- What may be left at the end of a stream, with the position of a framer there and the bytes that
it holds: nothing, the beginning of a header, or a header with less behind it than it announces. -/
inductive Unfinished : Bytes → FramerState → Bytes → Prop where
  | nothing : Unfinished [] .awaitingHeader []
  | header {tail : Bytes} (hshort : (packetDelimiter :: tail).length < packetHeaderLength) :
    Unfinished (packetDelimiter :: tail) .awaitingHeader (packetDelimiter :: tail)
  | payload {kind high low : UInt8} {held : Bytes} (hshort : held.length < wordOf high low) :
    Unfinished (packetDelimiter :: kind :: high :: low :: held)
      (.awaitingPayload kind (wordOf high low)) held

/-- Packets one after another, each with the noise before it, and the noise behind them. -/
structure Layout where
  runs : List (Bytes × Packet)
  noise : Bytes
  deriving DecidableEq, Repr

namespace Layout

/-- The packets laid out. -/
def packets (l : Layout) : List Packet := l.runs.map (·.2)

/-- The noise before each packet, and behind the last. -/
def noises (l : Layout) : List Bytes := l.runs.map (·.1) ++ [l.noise]

/-- How much noise there is altogether. -/
def noiseLength (l : Layout) : Nat := (l.noises.map List.length).sum

/-- The stream laid out. -/
def bytes (l : Layout) : Bytes := l.runs.flatMap (fun run => run.1 ++ run.2.encode) ++ l.noise

/-- What stands for noise is noise, and every packet can be told by its length. -/
structure Sound (l : Layout) : Prop where
  noises : ∀ noise ∈ l.noises, IsNoise noise
  packets : ∀ p ∈ l.packets, p.Fits

theorem bytes_nil (last : Bytes) : (Layout.mk [] last).bytes = last := rfl

theorem bytes_cons (noise last : Bytes) (p : Packet) (runs : List (Bytes × Packet)) :
    (Layout.mk ((noise, p) :: runs) last).bytes =
      noise ++ (p.encode ++ (Layout.mk runs last).bytes) := by
  simp only [bytes, List.flatMap_cons, List.append_assoc]

theorem noiseLength_cons (noise last : Bytes) (p : Packet) (runs : List (Bytes × Packet)) :
    (Layout.mk ((noise, p) :: runs) last).noiseLength =
      noise.length + (Layout.mk runs last).noiseLength := by
  simp only [noiseLength, noises, List.map_cons, List.cons_append, List.sum_cons]

/-- A layout is sound if its first run is and the others are. -/
theorem sound_cons {noise last : Bytes} {p : Packet} {runs : List (Bytes × Packet)} :
    (Layout.mk ((noise, p) :: runs) last).Sound ↔
      IsNoise noise ∧ p.Fits ∧ (Layout.mk runs last).Sound := by
  constructor
  · rintro ⟨hnoises, hpackets⟩
    refine ⟨hnoises noise List.mem_cons_self, hpackets p List.mem_cons_self, ?_, ?_⟩
    · exact fun g hg => hnoises g (List.mem_cons_of_mem noise hg)
    · exact fun q hq => hpackets q (List.mem_cons_of_mem p hq)
  · rintro ⟨hnoise, hfits, hrest⟩
    refine ⟨fun g hg => ?_, fun q hq => ?_⟩
    · rcases List.mem_cons.mp hg with rfl | hg
      · exact hnoise
      · exact hrest.noises g hg
    · rcases List.mem_cons.mp hq with rfl | hq
      · exact hfits
      · exact hrest.packets q hq

theorem Sound.noise_last {last : Bytes} {runs : List (Bytes × Packet)}
    (h : (Layout.mk runs last).Sound) : IsNoise last :=
  h.noises last (List.mem_append_right _ (List.mem_singleton_self last))

end Layout

/-! ## Lifting what is laid out -/

/-- The length bytes of a packet that fits tell its length. -/
theorem wordOf_lengthBytes {n : Nat} (h : n ≤ 65535) :
    wordOf (UInt8.ofNat (n / 256)) (UInt8.ofNat n) = n := by
  have hhigh : (UInt8.ofNat (n / 256)).toNat = n / 256 := by
    rw [UInt8.toNat_ofNat']
    omega
  have hlow : (UInt8.ofNat n).toNat = n % 256 := UInt8.toNat_ofNat'
  rw [wordOf, hhigh, hlow]
  omega

namespace Framer

variable {noise rest held : Bytes} {state : FramerState} {p : Packet}

/-- Noise is skipped, whatever stands behind it. -/
theorem skipNoise_append_of_noise (hnoise : IsNoise noise) (rest : Bytes) :
    skipNoise (noise ++ rest) = (noise ++ (skipNoise rest).1, (skipNoise rest).2) := by
  have hkeep : ∀ b ∈ noise, (b != packetDelimiter) = true := by
    intro b hb
    rw [bne_iff_ne]
    rintro rfl
    exact hnoise hb
  have hskip : skipNoise noise = (noise, []) :=
    Prod.ext (List.takeWhile_eq_self_iff.mpr hkeep) (List.dropWhile_eq_nil_iff.mpr hkeep)
  rw [skipNoise_append_of_nil (congrArg Prod.snd hskip), hskip]

/-- Behind noise a header is read that begins at a delimiter. -/
theorem readHeader_of_noise (hnoise : IsNoise noise) {tail : Bytes} {d : Nat} :
    (Framer.mk (noise ++ packetDelimiter :: tail) .awaitingHeader d).readHeader =
      headed (d + noise.length) (packetDelimiter :: tail) := by
  rw [readHeader_eq]
  dsimp only
  rw [skipNoise_append_of_noise hnoise, skipNoise_of_delimiter, List.append_nil]

/-- Behind noise a packet is lifted whole. -/
theorem next_of_run (hnoise : IsNoise noise) (hfits : p.Fits) (more : Bytes) (d : Nat) :
    (Framer.mk (noise ++ (p.encode ++ more)) .awaitingHeader d).next =
      (⟨more, .awaitingHeader, d + noise.length⟩, some p) := by
  rw [next_of_header rfl, Packet.encode, List.cons_append, readHeader_of_noise hnoise]
  show readPayload ⟨p.payload ++ more, .awaitingPayload p.kind (wordOf _ _), _⟩ = _
  rw [wordOf_lengthBytes hfits]
  rw [readPayload_of_full rfl (by rw [List.length_append]; omega), List.drop_left, List.take_left]

theorem drain_of_run (hnoise : IsNoise noise) (hfits : p.Fits) (more : Bytes) (d : Nat) :
    (Framer.mk (noise ++ (p.encode ++ more)) .awaitingHeader d).drain =
      ((Framer.mk more .awaitingHeader (d + noise.length)).drain.1,
        p :: (Framer.mk more .awaitingHeader (d + noise.length)).drain.2) :=
  drain_of_some (next_of_run hnoise hfits more d)

/-- What is unfinished behind noise is held, and nothing is lifted. -/
theorem next_of_unfinished (hnoise : IsNoise noise) (h : Unfinished rest state held) (d : Nat) :
    (Framer.mk (noise ++ rest) .awaitingHeader d).next =
      (⟨held, state, d + noise.length⟩, none) := by
  rw [next_of_header rfl]
  cases h with
  | nothing =>
    rw [readHeader_eq]
    dsimp only
    rw [skipNoise_append_of_noise hnoise, show skipNoise [] = ([], []) from rfl, List.append_nil]
    rfl
  | @header tail hshort =>
    -- Three bytes or fewer are no header.
    rw [readHeader_of_noise hnoise]
    rcases tail with _ | ⟨_, _ | ⟨_, _ | ⟨_, _⟩⟩⟩
    · rfl
    · rfl
    · rfl
    · simp only [packetHeaderLength, List.length_cons] at hshort
      omega
  | payload hshort =>
    rw [readHeader_of_noise hnoise, headed, readPayload]
    exact if_pos hshort

/-- A framer between packets lifts what is laid out, and holds what is unfinished. -/
theorem drain_of_layout {l : Layout} (hl : l.Sound) (h : Unfinished rest state held) (d : Nat) :
    (Framer.mk (l.bytes ++ rest) .awaitingHeader d).drain =
      (⟨held, state, d + l.noiseLength⟩, l.packets) := by
  -- By induction on the packets: each one is lifted with the noise before it thrown away.
  obtain ⟨runs, last⟩ := l
  induction runs generalizing d with
  | nil =>
    rw [Layout.bytes_nil, drain_of_none (next_of_unfinished hl.noise_last h d)]
    rfl
  | cons run runs ih =>
    obtain ⟨noise, p⟩ := run
    obtain ⟨hnoise, hfits, hrest⟩ := Layout.sound_cons.mp hl
    rw [Layout.bytes_cons, List.append_assoc, List.append_assoc, drain_of_run hnoise hfits,
      ih _ hrest, Layout.noiseLength_cons, Nat.add_assoc]
    rfl

/-- Fed in any reads, a stream gives what is laid out in it. -/
theorem feedAll_of_layout {l : Layout} (hl : l.Sound) (h : Unfinished rest state held) (d : Nat)
    {reads : List Bytes} (hreads : reads.flatten = l.bytes ++ rest) :
    (Framer.mk [] .awaitingHeader d).feedAll reads =
      (⟨held, state, d + l.noiseLength⟩, l.packets) := by
  have hsettled : (Framer.mk [] .awaitingHeader d).Settled := rfl
  rw [hsettled.feedAll reads, hreads, feed_eq]
  exact drain_of_layout hl h d

/-- Lifting undoes laying out. From a framer between packets, a stream of packets with noise before,
between and behind them, however it is cut into reads, brings back exactly those packets in order;
the framer is between packets again, and has thrown away as many bytes more as there was noise. -/
theorem feedAll_undoes_layout (f : Framer) (hstate : f.state = .awaitingHeader)
    (hbuffer : f.buffer = []) (l : Layout) (hnoises : ∀ noise ∈ l.noises, IsNoise noise)
    (hfits : ∀ p ∈ l.packets, p.Fits) (reads : List Bytes) (hreads : reads.flatten = l.bytes) :
    let fed := f.feedAll reads
    fed.2 = l.packets ∧ fed.1.buffer = [] ∧ fed.1.state = .awaitingHeader ∧
      fed.1.discarded = f.discarded + l.noiseLength := by
  intro fed
  obtain ⟨buffer, position, d⟩ := f
  obtain rfl : position = .awaitingHeader := hstate
  obtain rfl : buffer = [] := hbuffer
  have hfed : fed = (⟨[], .awaitingHeader, d + l.noiseLength⟩, l.packets) :=
    feedAll_of_layout ⟨hnoises, hfits⟩ .nothing d (hreads.trans (List.append_nil _).symm)
  rw [hfed]
  exact ⟨rfl, rfl, rfl, rfl⟩

/-- An empty packet and one full of delimiters, with noise before and between them. -/
def emptyAndNulls : Layout := ⟨[([7], ⟨0, []⟩), ([8, 9], ⟨0, [0, 0, 0]⟩)], [1]⟩

/-- Read in two parts, the cut being inside the length of the second packet. -/
theorem emptyAndNulls_undone :
    let reads : List Bytes := [[7, 0, 0, 0, 0, 8, 9, 0, 0, 0], [], [3, 0, 0, 0, 1]]
    reads.flatten = emptyAndNulls.bytes ∧
      (({ discarded := 5 } : Framer).feedAll reads).2 = [⟨0, []⟩, ⟨0, [0, 0, 0]⟩] ∧
      (({ discarded := 5 } : Framer).feedAll reads).1.discarded = 9 := by
  intro reads
  have hall := feedAll_undoes_layout { discarded := 5 } rfl rfl emptyAndNulls (by decide)
    (by decide) reads (by decide)
  exact ⟨by decide, hall.1, hall.2.2.2⟩

end Framer

end BroadcastLink
