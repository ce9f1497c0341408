import Mathlib.Tactic.Tauto
import Muxtop.Proto.Frame

/-!
# The frame format

A frame that fits under the cap has one encoding, and the buffer decoder and the stream reader both
accept exactly the byte strings that start with one. The stream reader reports a clean end also when
the stream stops inside the four header bytes.
-/

namespace Muxtop.Proto

open FixedWidth ByteStream

/-- The content, type byte included, is within the cap. -/
def Frame.Fits (f : Frame) : Prop := 1 + f.payload.length ≤ maxFrameSize.toNat

/-- The four length bytes of a frame. -/
def Frame.header (f : Frame) : List UInt8 := toBeBytes (UInt32.ofNat (1 + f.payload.length))

/-- The bytes of a frame on the wire. -/
def Frame.encoded (f : Frame) : List UInt8 := f.header ++ f.msgType :: f.payload

/-! ## Headers -/

/-- The cap is four mebibytes. -/
theorem toNat_maxFrameSize : maxFrameSize.toNat = 4194304 := by decide

/-- A length is written in four bytes. -/
@[simp] theorem length_toBeBytes (n : UInt32) : (toBeBytes n).length = headerSize := by
  simp [toBeBytes]

/-- So a header has four. -/
@[simp] theorem Frame.length_header (f : Frame) : f.header.length = headerSize := length_toBeBytes _

/-- A frame takes its header, its type and its payload. -/
@[simp] theorem Frame.length_encoded (f : Frame) :
    f.encoded.length = headerSize + (1 + f.payload.length) := by
  simp only [encoded, List.length_append, length_header, List.length_cons]
  omega

/-- A length that was written is read back. -/
@[simp] theorem fromBeBytes_toBeBytes (n : UInt32) : fromBeBytes (toBeBytes n) = n := by
  rw [fromBeBytes, toBeBytes, ofBeBytes_beBytes headerSize _ n.toNat_lt, UInt32.ofNat_toNat]

/-- Four bytes that were read are what would be written. -/
theorem toBeBytes_fromBeBytes {header : List UInt8} (h : header.length = headerSize) :
    toBeBytes (fromBeBytes header) = header := by
  have hlt : ofBeBytes header < 2 ^ 32 := by
    have hlt := ofBeBytes_lt header
    rwa [h] at hlt
  rw [toBeBytes, fromBeBytes, UInt32.toNat_ofNat_of_lt' hlt, ← h, beBytes_ofBeBytes]

/-- The length of a frame within the cap fits 32 bits. -/
theorem Frame.Fits.toNat_contentLen {f : Frame} (h : f.Fits) :
    (UInt32.ofNat (1 + f.payload.length)).toNat = 1 + f.payload.length := by
  have hmax := toNat_maxFrameSize
  exact UInt32.toNat_ofNat_of_lt' (show _ < 2 ^ 32 by unfold Frame.Fits at h; omega)

/-- The encoder takes the frames within the cap. -/
theorem encodeFrame_eq_ok_iff {f : Frame} {bytes : List UInt8} :
    encodeFrame f = .ok bytes ↔ f.Fits ∧ bytes = f.encoded := by
  simp only [encodeFrame]
  split
  · next hlt => exact ⟨nofun, fun h => absurd h.1 (Nat.not_le.mpr hlt)⟩
  · next hle =>
    rw [Except.ok.injEq]
    exact ⟨fun h => ⟨Nat.not_lt.mp hle, h.symm⟩, fun h => h.2.symm⟩

/-- A header that announces a content within the cap, with that content, is a frame. -/
theorem eq_encoded {header : List UInt8} {msgType : UInt8} {payload : List UInt8}
    (hheader : header.length = headerSize)
    (hlen : (fromBeBytes header).toNat = 1 + payload.length) :
    header ++ msgType :: payload = Frame.encoded ⟨msgType, payload⟩ := by
  rw [Frame.encoded, Frame.header, ← hlen, UInt32.ofNat_toNat, toBeBytes_fromBeBytes hheader]

/-! ## The buffer decoder -/

/-- What follows an encoding does not matter. -/
theorem decodeFrame_encoded {f : Frame} (hf : f.Fits) (rest : List UInt8) :
    decodeFrame (f.encoded ++ rest) = .ok (f, f.encoded.length) := by
  -- What each of the decoder's looks into the buffer sees; its three guards then fall one by one.
  have hlen := hf.toNat_contentLen
  have hhead : (f.encoded ++ rest).take headerSize = f.header := by
    rw [Frame.encoded, List.append_assoc]
    exact List.take_left' f.length_header
  have hbody : (f.encoded ++ rest).drop headerSize = f.msgType :: (f.payload ++ rest) := by
    rw [Frame.encoded, List.append_assoc, List.drop_left' f.length_header, List.cons_append]
  have htotal : headerSize + (fromBeBytes f.header).toNat = f.encoded.length := by
    rw [Frame.header, fromBeBytes_toBeBytes, hlen, f.length_encoded]
  have hpayload : f.encoded.drop (headerSize + 1) = f.payload := by
    rw [← List.drop_drop, Frame.encoded, List.drop_left' f.length_header, List.drop_one,
      List.tail_cons]
  have hmax : ¬maxFrameSize < fromBeBytes f.header := by
    rw [UInt32.lt_iff_toNat_lt, Frame.header, fromBeBytes_toBeBytes, hlen]
    exact Nat.not_lt.mpr hf
  have hzero : fromBeBytes f.header ≠ 0 := by
    rw [ne_eq, ← UInt32.toNat_inj, Frame.header, fromBeBytes_toBeBytes, hlen]
    exact Nat.succ_ne_zero _ ∘ (Nat.add_comm _ _).trans
  have hlong : ¬(f.encoded ++ rest).length < headerSize := by
    rw [List.length_append, f.length_encoded]
    omega
  have hfull : ¬(f.encoded ++ rest).length < f.encoded.length := by
    rw [List.length_append]
    omega
  rw [decodeFrame, if_neg hlong]
  simp only [hhead, htotal, if_neg hmax, if_neg hfull, if_neg hzero, hbody, List.headD_cons,
    List.take_left, hpayload]

/-- A byte string with a whole header. -/
theorem exists_header_append {buf : List UInt8} (h : headerSize ≤ buf.length) :
    ∃ header body, buf = header ++ body ∧ header.length = headerSize :=
  ⟨buf.take headerSize, buf.drop headerSize, (List.take_append_drop _ _).symm,
    List.length_take_of_le h⟩

/-- A content length that passed both checks. -/
theorem contentLen_bounds {contentLen : UInt32} (hmax : ¬maxFrameSize < contentLen)
    (hzero : ¬contentLen = 0) : 1 ≤ contentLen.toNat ∧ contentLen.toNat ≤ maxFrameSize.toNat := by
  constructor
  · exact Nat.pos_of_ne_zero fun h0 => hzero (UInt32.toNat_inj.mp h0)
  · rwa [UInt32.lt_iff_toNat_lt, Nat.not_lt] at hmax

/-- Whatever the decoder accepts starts with the encoding of what it returns. -/
theorem encoded_of_decodeFrame {buf : List UInt8} {f : Frame} {n : ℕ}
    (h : decodeFrame buf = .ok (f, n)) :
    f.Fits ∧ n = f.encoded.length ∧ ∃ rest, buf = f.encoded ++ rest := by
  by_cases hlong : headerSize ≤ buf.length
  · obtain ⟨header, body, rfl, hheader⟩ := exists_header_append hlong
    simp only [decodeFrame, if_neg (Nat.not_lt.mpr hlong), List.take_left' hheader,
      List.drop_left' hheader] at h
    split at h
    · cases h
    -- The guards that were passed bound the announced length from both sides.
    next hmax =>
    split at h
    · cases h
    next hfull =>
    split at h
    · cases h
    next hzero =>
    obtain ⟨hpos, hle⟩ := contentLen_bounds hmax hzero
    cases body with
    | nil =>
        rw [List.append_nil, hheader] at hfull
        omega
    | cons msgType tail =>
        rw [List.length_append, List.length_cons, hheader] at hfull
        have htail : (header ++ msgType :: tail).drop (headerSize + 1) = tail := by
          rw [← List.drop_drop, List.drop_left' hheader, List.drop_one, List.tail_cons]
        have hwidth : headerSize + (fromBeBytes header).toNat - (headerSize + 1) =
            (fromBeBytes header).toNat - 1 := by omega
        rw [List.drop_take, htail, hwidth, List.headD_cons] at h
        cases h
        have hlen : (tail.take ((fromBeBytes header).toNat - 1)).length =
            (fromBeBytes header).toNat - 1 := List.length_take_of_le (by omega)
        refine ⟨?_, ?_, tail.drop ((fromBeBytes header).toNat - 1), ?_⟩
        · show 1 + (tail.take _).length ≤ _
          omega
        · rw [Frame.length_encoded]
          show _ = _ + (1 + (tail.take _).length)
          omega
        · rw [← eq_encoded hheader (by omega), List.append_assoc, List.cons_append,
            List.take_append_drop]
  -- Too short for a header, so nothing was decoded.
  · rw [decodeFrame, if_pos (Nat.not_le.mp hlong)] at h
    cases h

/-- The decoder takes what begins with such a frame. -/
theorem decodeFrame_eq_ok_iff {buf : List UInt8} {f : Frame} :
    (∃ n, decodeFrame buf = .ok (f, n)) ↔ f.Fits ∧ f.encoded <+: buf := by
  constructor
  · rintro ⟨n, h⟩
    obtain ⟨hfits, -, rest, hbuf⟩ := encoded_of_decodeFrame h
    exact ⟨hfits, rest, hbuf.symm⟩
  · rintro ⟨hfits, rest, rfl⟩
    exact ⟨_, decodeFrame_encoded hfits rest⟩

/-! ## The stream reader -/

/-- Reading a header that is there. -/
theorem readExact_header {s : Stream} {header rest : List UInt8} (hheader : header.length = headerSize)
    (hs : s.bytes = header ++ rest) :
    readExact headerSize s = (.ready (.ok header), s.skip headerSize) ∧
      (s.skip headerSize).bytes = rest := by
  have hle : headerSize ≤ s.bytes.length := by
    rw [hs, List.length_append]
    omega
  rw [readExact, readExact_of_le _ hle, Source.bytes_skip, hs, List.take_left' hheader,
    List.drop_left' hheader]
  exact ⟨rfl, rfl⟩

/-- The frame behind its header is read when its bytes are there. -/
theorem readBody_of_append {s : Stream} {msgType : UInt8} {payload rest : List UInt8}
    (hs : s.bytes = msgType :: (payload ++ rest)) :
    ∃ s', readBody payload.length s = (.ready (.ok (some ⟨msgType, payload⟩)), s') ∧
      s'.bytes = rest ∧ s'.ending = s.ending := by
  have hone : 1 ≤ s.bytes.length := by
    rw [hs, List.length_cons]
    omega
  have hskip : (s.skip 1).bytes = payload ++ rest := by
    rw [Source.bytes_skip, hs, List.drop_one, List.tail_cons]
  have htake : s.bytes.take 1 = [msgType] := by rw [hs, List.take_succ_cons, List.take_zero]
  rw [readBody, readExact, readExact_of_le _ hone, htake]
  by_cases hpos : 0 < payload.length
  · have hlen : payload.length ≤ (s.skip 1).bytes.length := by
      rw [hskip, List.length_append]
      omega
    refine ⟨(s.skip 1).skip payload.length, ?_, ?_, rfl⟩
    · simp only [if_pos hpos, readExact, readExact_of_le _ hlen, hskip, List.take_left,
        List.headD_cons]
    · rw [Source.bytes_skip, hskip, List.drop_left]
  · obtain rfl : payload = [] := List.length_eq_zero_iff.mp (by omega)
    exact ⟨s.skip 1, rfl, hskip, rfl⟩

/-- A stream that starts with the encoding of a frame within the caps gives that frame. -/
theorem readFrame_of_encoded {m : ℕ} {f : Frame} (hfits : f.Fits) (hm : f.payload.length ≤ m)
    {s : Stream} {rest : List UInt8} (hs : s.bytes = f.encoded ++ rest) :
    ∃ s', readFrameWithMaxPayload m s = (.ready (.ok (some f)), s') ∧ s'.bytes = rest ∧
      s'.ending = s.ending := by
  have hlen := hfits.toNat_contentLen
  rw [Frame.encoded, List.append_assoc, List.cons_append] at hs
  obtain ⟨hread, hrest⟩ := readExact_header f.length_header hs
  have hcontent : fromBeBytes f.header = UInt32.ofNat (1 + f.payload.length) :=
    fromBeBytes_toBeBytes _
  have hmax : ¬maxFrameSize < UInt32.ofNat (1 + f.payload.length) := by
    rw [UInt32.lt_iff_toNat_lt, hlen]
    exact Nat.not_lt.mpr hfits
  have hzero : UInt32.ofNat (1 + f.payload.length) ≠ 0 := by
    rw [ne_eq, ← UInt32.toNat_inj, hlen]
    exact Nat.succ_ne_zero _ ∘ (Nat.add_comm _ _).trans
  have hcap : ¬m < f.payload.length := Nat.not_lt.mpr hm
  obtain ⟨s', hbody, hs', hending⟩ := readBody_of_append hrest
  refine ⟨s', ?_, hs', hending⟩
  simp only [readFrameWithMaxPayload, hread, hcontent, if_neg hmax, if_neg hzero, hlen,
    Nat.add_sub_cancel_left, if_neg hcap, hbody]

/-- A body that was read is what the stream had next. -/
theorem append_of_readBody {n : ℕ} {s s' : Stream} {f : Frame}
    (h : readBody n s = (.ready (.ok (some f)), s')) :
    f.payload.length = n ∧ s.bytes = f.msgType :: (f.payload ++ s'.bytes) := by
  unfold readBody at h
  split at h
  · cases h
  · cases h
  next typeBuf s₁ htype =>
    obtain ⟨hlen, hbytes, -⟩ := append_of_readExact htype
    obtain ⟨msgType, rfl⟩ := List.length_eq_one_iff.mp hlen
    split at h
    · split at h
      · cases h
      · cases h
      next payload s₂ hpayload =>
        obtain ⟨hlen₂, hbytes₂, -⟩ := append_of_readExact hpayload
        cases h
        refine ⟨hlen₂, ?_⟩
        rw [hbytes, hbytes₂]
        rfl
    · next hzero =>
      cases h
      exact ⟨by rw [List.length_nil]; omega, hbytes⟩

/-- A frame that is read is within the caps, and its encoding is at the front of the stream. -/
theorem encoded_of_readFrame {m : ℕ} {s s' : Stream} {f : Frame}
    (h : readFrameWithMaxPayload m s = (.ready (.ok (some f)), s')) :
    f.Fits ∧ f.payload.length ≤ m ∧ s.bytes = f.encoded ++ s'.bytes := by
  unfold readFrameWithMaxPayload at h
  split at h
  · cases h
  · cases h
  · cases h
  next header s₁ hread =>
    obtain ⟨hheader, hbytes, -⟩ := append_of_readExact hread
    simp only at h
    split at h
    · cases h
    next hmax =>
    split at h
    · cases h
    next hzero =>
    split at h
    · cases h
    next hcap =>
    -- past the three checks the header announces a content length within the caps
    obtain ⟨hpos, hle⟩ := contentLen_bounds hmax hzero
    obtain ⟨hlen, hbytes₁⟩ := append_of_readBody h
    refine ⟨?_, by omega, ?_⟩
    · unfold Frame.Fits
      omega
    · rw [hbytes, hbytes₁, ← List.cons_append, ← List.append_assoc, eq_encoded hheader (by omega)]

/-- The reader takes a frame within its own bound off the front of the stream. -/
theorem readFrame_eq_some_iff {m : ℕ} {s : Stream} {f : Frame} :
    (readFrameWithMaxPayload m s).1 = .ready (.ok (some f)) ↔
      f.Fits ∧ f.payload.length ≤ m ∧ f.encoded <+: s.bytes := by
  constructor
  · intro h
    obtain ⟨hfits, hm, hbytes⟩ := encoded_of_readFrame (Prod.ext h rfl)
    exact ⟨hfits, hm, _, hbytes.symm⟩
  · rintro ⟨hfits, hm, rest, hbytes⟩
    obtain ⟨s', h, -⟩ := readFrame_of_encoded hfits hm hbytes.symm
    rw [h]

/-- Within a frame the end of the stream is no clean one. -/
theorem readBody_ne_none (n : ℕ) (s : Stream) : (readBody n s).1 ≠ .ready (.ok none) := by
  unfold readBody
  split
  · exact nofun
  · exact nofun
  split
  · split
    · exact nofun
    · exact nofun
    · exact nofun
  · exact nofun

/-- On a stream that ends, a clean end is what the reader reports for fewer bytes than a header. -/
theorem readFrame_eq_none_iff {m : ℕ} {s : Stream} (hending : s.ending = .eof) :
    (readFrameWithMaxPayload m s).1 = .ready (.ok none) ↔ s.bytes.length < headerSize := by
  by_cases hshort : s.bytes.length < headerSize
  · simp only [readFrameWithMaxPayload, readExact, readExact_of_lt _ hshort, hending, Ending.outcome,
      hshort]
  · simp only [readFrameWithMaxPayload, readExact, readExact_of_le _ (Nat.not_lt.mp hshort), hshort,
      iff_false]
    split
    · exact nofun
    split
    · exact nofun
    split
    · exact nofun
    · exact readBody_ne_none _ _

/-- A stream that has ended keeps no read waiting. -/
theorem exists_readBody_ready (n : ℕ) {s : Stream} (hending : s.ending = .eof) :
    ∃ result, (readBody n s).1 = .ready result := by
  obtain ⟨result, hread⟩ := exists_readExact_ready .unexpectedEof 1 hending
  rw [readBody, readExact, hread]
  cases result with
  | error e => exact ⟨_, rfl⟩
  | ok typeBuf =>
      have hskip : (s.skip 1).ending = .eof := hending
      obtain ⟨result, hread⟩ := exists_readExact_ready .unexpectedEof n hskip
      by_cases hpos : 0 < n
      · simp only [if_pos hpos, readExact]
        rw [hread]
        cases result with
        | error e => exact ⟨_, rfl⟩
        | ok payload => exact ⟨_, rfl⟩
      · simp only [if_neg hpos]
        exact ⟨_, rfl⟩

/-- On a stream that ends, the reader returns. -/
theorem exists_readFrame_ready (m : ℕ) {s : Stream} (hending : s.ending = .eof) :
    ∃ result, (readFrameWithMaxPayload m s).1 = .ready result := by
  by_cases hshort : s.bytes.length < headerSize
  · exact ⟨_, (readFrame_eq_none_iff hending).mpr hshort⟩
  · simp only [readFrameWithMaxPayload, readExact, readExact_of_le _ (Nat.not_lt.mp hshort)]
    split
    · exact ⟨_, rfl⟩
    split
    · exact ⟨_, rfl⟩
    split
    · exact ⟨_, rfl⟩
    · exact exists_readBody_ready _ (s.ending_skip headerSize ▸ hending)

/-- Successive reads of encoded frames give them back in order. -/
theorem readFrames_encoded {m : ℕ} {ending : Ending ErrorKind} : (fs : List Frame) →
    (∀ f ∈ fs, f.Fits ∧ f.payload.length ≤ m) → (s : Stream) → (rest : List UInt8) →
    s.bytes = fs.flatMap Frame.encoded ++ rest → s.ending = ending →
    ∃ s', readFrames m fs.length s = some (fs, s') ∧ s'.bytes = rest ∧ s'.ending = ending
  | [], _, s, rest, hs, hending => ⟨s, rfl, hs, hending⟩
  | f :: fs, hfs, s, rest, hs, hending => by
      obtain ⟨hfits, hm⟩ := hfs f List.mem_cons_self
      rw [List.flatMap_cons, List.append_assoc] at hs
      obtain ⟨s₁, hread, hs₁, hending₁⟩ := readFrame_of_encoded hfits hm hs
      obtain ⟨s₂, hreads, hs₂, hending₂⟩ := readFrames_encoded fs
        (fun g hg => hfs g (List.mem_cons_of_mem f hg)) s₁ rest hs₁ (hending₁.trans hending)
      refine ⟨s₂, ?_, hs₂, hending₂⟩
      rw [List.length_cons, readFrames, hread]
      simp only [hreads, Option.map_some]

/-- Frames are encoded one by one. -/
theorem mapM_encodeFrame : {fs : List Frame} → {encs : List (List UInt8)} →
    fs.mapM encodeFrame = .ok encs → (∀ f ∈ fs, f.Fits) ∧ encs.flatten = fs.flatMap Frame.encoded
  | [], encs, h => by
      cases h
      exact ⟨nofun, rfl⟩
  | f :: fs, encs, h => by
      rw [List.mapM_cons] at h
      obtain ⟨enc, hf, h⟩ := Bincode.bind_eq_ok.mp h
      obtain ⟨encs', hfs, h⟩ := Bincode.bind_eq_ok.mp h
      cases h
      obtain ⟨hfits, rfl⟩ := encodeFrame_eq_ok_iff.mp hf
      obtain ⟨hall, hflat⟩ := mapM_encodeFrame hfs
      refine ⟨fun g hg => ?_, by rw [List.flatten_cons, hflat, List.flatMap_cons]⟩
      rcases List.mem_cons.mp hg with rfl | hg
      · exact hfits
      · exact hall g hg

/-! ## The three implementations agree -/

/-- The whole-format law: reading a concatenation of encodings gives the frames and then a clean end,
the buffer decoder is the inverse of the encoder whatever follows, and the stream reader accepts what
the buffer decoder accepts, up to its payload cap. -/
theorem frame_codec :
    (∀ (fs : List Frame) (encs : List (List UInt8)), fs.mapM encodeFrame = .ok encs →
      ∀ s : Stream, s.bytes = encs.flatten → s.ending = .eof →
        ∃ s', readFrames (maxFrameSize.toNat - 1) fs.length s = some (fs, s') ∧
          (readFrame s').1 = .ready (.ok none)) ∧
    (∀ (buf : List UInt8) (f : Frame) (n : ℕ), decodeFrame buf = .ok (f, n) →
      encodeFrame f = .ok (buf.take n)) ∧
    (∀ (f : Frame) (enc rest : List UInt8), encodeFrame f = .ok enc →
      decodeFrame (enc ++ rest) = .ok (f, enc.length)) ∧
    (∀ (s : Stream) (f : Frame), (readFrame s).1 = .ready (.ok (some f)) ↔
      ∃ n, decodeFrame s.bytes = .ok (f, n)) ∧
    (∀ (m : ℕ) (s : Stream) (f : Frame), (readFrameWithMaxPayload m s).1 = .ready (.ok (some f)) ↔
      (∃ n, decodeFrame s.bytes = .ok (f, n)) ∧ f.payload.length ≤ m) := by
  have hcap : ∀ f : Frame, f.Fits → f.payload.length ≤ maxFrameSize.toNat - 1 := fun f hf =>
    Nat.le_sub_one_of_lt (by unfold Frame.Fits at hf; omega)
  refine ⟨?_, ?_, ?_, ?_, ?_⟩
  · intro fs encs hencs s hs hending
    obtain ⟨hfits, hflat⟩ := mapM_encodeFrame hencs
    obtain ⟨s', hreads, hs', hending'⟩ := readFrames_encoded fs
      (fun f hf => ⟨hfits f hf, hcap f (hfits f hf)⟩) s [] (by rw [hs, hflat, List.append_nil])
      hending
    exact ⟨s', hreads, (readFrame_eq_none_iff hending').mpr (by rw [hs']; decide)⟩
  · intro buf f n h
    obtain ⟨hfits, rfl, rest, rfl⟩ := encoded_of_decodeFrame h
    exact encodeFrame_eq_ok_iff.mpr ⟨hfits, List.take_left⟩
  · intro f enc rest h
    obtain ⟨hfits, rfl⟩ := encodeFrame_eq_ok_iff.mp h
    exact decodeFrame_encoded hfits rest
  · intro s f
    rw [readFrame, readFrame_eq_some_iff, decodeFrame_eq_ok_iff]
    exact ⟨fun h => ⟨h.1, h.2.2⟩, fun h => ⟨h.1, hcap f h.1, h.2⟩⟩
  · intro m s f
    rw [readFrame_eq_some_iff, decodeFrame_eq_ok_iff]
    tauto

/-! ## Where a stream may end -/

/-- After complete frames and `cut`, the bytes of a frame that was not completed: a clean end is
reported exactly at a frame boundary, and elsewhere an error. -/
def CleanEndAtBoundary (cut : List UInt8) (outcome : Poll (Except ProtoError (Option Frame))) :
    Prop :=
  (outcome = .ready (.ok none) ↔ cut = []) ∧ (cut ≠ [] → ∃ e, outcome = .ready (.error e))

/-- A stream cut behind the header of a frame is an error, whatever the payload cap. -/
theorem exists_readFrame_error {m : ℕ} {f : Frame} (hf : f.Fits) {s : Stream}
    (hending : s.ending = .eof) (hcut : s.bytes <+: f.encoded) (hne : s.bytes ≠ f.encoded)
    (hheader : headerSize ≤ s.bytes.length) :
    ∃ e, (readFrameWithMaxPayload m s).1 = .ready (.error e) := by
  obtain ⟨result, hresult⟩ := exists_readFrame_ready m hending
  match result, hresult with
  | .error e, h => exact ⟨e, h⟩
  | .ok none, h => exact absurd ((readFrame_eq_none_iff hending).mp h) (Nat.not_lt.mpr hheader)
  | .ok (some g), h =>
      -- a frame read here would be an encoding inside an encoding
      obtain ⟨hg, -, hprefix⟩ := readFrame_eq_some_iff.mp h
      obtain ⟨rest, hrest⟩ := hprefix.trans hcut
      have hdecode := decodeFrame_encoded hg rest
      have hdecode' := decodeFrame_encoded hf []
      rw [List.append_nil, ← hrest, hdecode] at hdecode'
      obtain rfl : g = f := (Prod.mk.inj (Except.ok.inj hdecode')).1
      exact absurd (List.IsPrefix.eq_of_length_le hcut hprefix.length_le) hne

/-- The end of the stream is reported as clean only at a frame boundary if and only if the stream is
not cut inside the four bytes of a header. -/
theorem cleanEndAtBoundary_iff (m : ℕ) (fs : List Frame) (encs : List (List UInt8)) (f : Frame)
    (enc cut : List UInt8) (s : Stream) (hfs : fs.mapM encodeFrame = .ok encs)
    (hm : ∀ g ∈ fs, g.payload.length ≤ m) (hf : encodeFrame f = .ok enc) (hcut : cut <+: enc)
    (hne : cut ≠ enc) (hs : s.bytes = encs.flatten ++ cut) (hending : s.ending = .eof) :
    ∃ s', readFrames m fs.length s = some (fs, s') ∧
      (CleanEndAtBoundary cut (readFrameWithMaxPayload m s').1 ↔
        cut = [] ∨ headerSize ≤ cut.length) := by
  obtain ⟨hfits, rfl⟩ := encodeFrame_eq_ok_iff.mp hf
  obtain ⟨hall, hflat⟩ := mapM_encodeFrame hfs
  obtain ⟨s', hreads, hs', hending'⟩ := readFrames_encoded fs (fun g hg => ⟨hall g hg, hm g hg⟩) s cut
    (by rw [hs, hflat]) hending
  refine ⟨s', hreads, ?_⟩
  rw [CleanEndAtBoundary, readFrame_eq_none_iff hending', hs']
  constructor
  · rintro ⟨hclean, -⟩
    by_cases hshort : cut.length < headerSize
    · exact Or.inl (hclean.mp hshort)
    · exact Or.inr (Nat.not_lt.mp hshort)
  · rintro (rfl | hheader)
    · exact ⟨⟨fun _ => rfl, fun _ => by decide⟩, fun h => absurd rfl h⟩
    · have hcut' : cut ≠ [] := List.ne_nil_of_length_pos (Nat.lt_of_lt_of_le (by decide) hheader)
      refine ⟨⟨fun h => absurd h (Nat.not_lt.mpr hheader), fun h => absurd h hcut'⟩, fun _ => ?_⟩
      exact exists_readFrame_error hfits hending' (hs' ▸ hcut) (hs' ▸ hne) (hs' ▸ hheader)

/-- An empty frame, and then two of the five bytes of another: the reader reports a clean end. -/
theorem not_cleanEndAtBoundary_header :
    ∃ s', readFrames 4096 1 ⟨[⟨0, [0, 0, 1, 2, 0, 0]⟩], .eof⟩ = some ([⟨2, []⟩], s') ∧
      encodeFrame ⟨2, []⟩ = .ok [0, 0, 0, 1, 2] ∧
      (readFrameWithMaxPayload 4096 s').1 = .ready (.ok none) ∧
      ¬CleanEndAtBoundary [0, 0] (readFrameWithMaxPayload 4096 s').1 := by
  refine ⟨⟨[⟨0, [0]⟩], .eof⟩, by decide, by decide, by decide, fun h => ?_⟩
  exact absurd (h.1.mp (by decide)) (by decide)

/-- A stream that ends behind a header is an error, as it should be. -/
theorem cleanEndAtBoundary_iff_body :
    ∃ s', readFrames 4096 1 ⟨[⟨0, [0, 0, 1, 2, 0, 0, 0, 1]⟩], .eof⟩ = some ([⟨2, []⟩], s') ∧
      (CleanEndAtBoundary [0, 0, 0, 1] (readFrameWithMaxPayload 4096 s').1 ↔
        [0, 0, 0, 1] = ([] : List UInt8) ∨ headerSize ≤ [0, 0, 0, 1].length) :=
  cleanEndAtBoundary_iff 4096 [⟨2, []⟩] [[0, 0, 0, 1, 2]] ⟨2, []⟩ [0, 0, 0, 1, 2] [0, 0, 0, 1]
    ⟨[⟨0, [0, 0, 1, 2, 0, 0, 0, 1]⟩], .eof⟩ (by decide) (by decide) (by decide) (by decide)
    (by decide) (by decide) rfl

end Muxtop.Proto
