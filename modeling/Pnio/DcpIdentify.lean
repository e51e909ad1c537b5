import Pnio.DcpReply

/-!
Which Identify requests are answered. The handler folds the filter blocks into a small record,
in which of several names only the last one is left, and it reads the service of the header
without looking at it. So it answers every request that asks for this device, and a few more.
-/

namespace Pnio

/-! ### The filter blocks -/

lemma Str.eq_of_bytes {a b : Str} (h : a.bytes = b.bytes) : a = b := by
  cases a
  cases b
  cases h
  rfl

namespace DcpBlock

def isNameOfStation (b : DcpBlock) : Bool := (b.option, b.suboption) = (2, 2)

def isAllSelector (b : DcpBlock) : Bool := (b.option, b.suboption) = (0xff, 0xff)

/-- The block asks for this device. -/
def Matches (props : DeviceProperties) (b : DcpBlock) : Prop :=
  b.isAllSelector ∨ b.isNameOfStation ∧ b.value = props.nameOfStation.bytes

/-- A block of neither kind. -/
def isOther (b : DcpBlock) : Bool := !b.isNameOfStation && !b.isAllSelector

lemma not_isAllSelector {b : DcpBlock} (h : b.isNameOfStation) : b.isAllSelector = false := by
  obtain ⟨o, s, i, v⟩ := b
  simp only [isNameOfStation, decide_eq_true_eq, Prod.mk.injEq] at h
  obtain ⟨rfl, rfl⟩ := h
  rfl

end DcpBlock

/-- The last NameOfStation among the blocks. -/
def lastName (blocks : List DcpBlock) : Option Bytes :=
  ((blocks.filter DcpBlock.isNameOfStation).getLast?).map (·.value)

@[simp] lemma lastName_nil : lastName [] = none := rfl

lemma lastName_cons_name {b : DcpBlock} (h : b.isNameOfStation) (bs : List DcpBlock) :
    lastName (b :: bs) = (lastName bs).or (some b.value) := by
  rw [lastName, List.filter_cons_of_pos h, List.getLast?_cons, lastName]
  cases (bs.filter DcpBlock.isNameOfStation).getLast? <;> rfl

lemma lastName_cons_skip {b : DcpBlock} (h : b.isNameOfStation = false) (bs : List DcpBlock) :
    lastName (b :: bs) = lastName bs := by
  rw [lastName, List.filter_cons_of_neg (by simp [h]), lastName]

/-- Every name can be read as a string. -/
def NamesValid (blocks : List DcpBlock) : Prop :=
  ∀ b ∈ blocks, b.isNameOfStation → utf8Valid b.value = true

/-- What is left of the blocks in the record. -/
structure Summary (f : IdentifyFilter) (blocks : List DcpBlock) (g : IdentifyFilter) : Prop where
  valid : NamesValid blocks
  name : g.nameOfStation.map Str.bytes = (lastName blocks).or (f.nameOfStation.map Str.bytes)
  all : g.allSelector = (f.allSelector || blocks.any DcpBlock.isAllSelector)
  others : g.otherFilters =
    f.otherFilters ++ (blocks.filter DcpBlock.isOther).map fun b => (b.option, b.suboption)

namespace IdentifyFilter

lemma push_name {b : DcpBlock} (h : b.isNameOfStation) (f g : IdentifyFilter) :
    f.push b = .ok g ↔ ∃ s : Str, s.bytes = b.value ∧ g = { f with nameOfStation := some s } := by
  have hif : (b.option, b.suboption) = (2, 2) := by simpa [DcpBlock.isNameOfStation] using h
  rw [push, if_pos hif, Res.bind_eq_ok]
  constructor
  · rintro ⟨s, hs, hg⟩
    rw [Res.okOr_eq_ok, Str.fromUtf8] at hs
    split_ifs at hs with hv
    · cases hs
      cases hg
      exact ⟨_, rfl, rfl⟩
  · rintro ⟨s, hs, rfl⟩
    refine ⟨s, ?_, rfl⟩
    rw [Res.okOr_eq_ok, Str.fromUtf8, ← hs, dif_pos s.valid]

lemma push_all {b : DcpBlock} (h : b.isAllSelector) (f : IdentifyFilter) :
    f.push b = .ok { f with allSelector := true } := by
  obtain ⟨o, s, i, v⟩ := b
  simp only [DcpBlock.isAllSelector, decide_eq_true_eq, Prod.mk.injEq] at h
  obtain ⟨rfl, rfl⟩ := h
  rfl

lemma push_other {b : DcpBlock} (h : b.isOther) (f : IdentifyFilter) :
    f.push b = .ok { f with otherFilters := f.otherFilters ++ [(b.option, b.suboption)] } := by
  simp only [DcpBlock.isOther, DcpBlock.isNameOfStation, DcpBlock.isAllSelector, Bool.and_eq_true,
    Bool.not_eq_true', decide_eq_false_iff_not] at h
  rw [push, if_neg h.1, if_neg h.2]

end IdentifyFilter

/-- What the record keeps of the blocks. -/
lemma summary_of_foldlM {blocks : List DcpBlock} {f g : IdentifyFilter}
    (h : blocks.foldlM IdentifyFilter.push f = .ok g) : Summary f blocks g := by
  induction blocks generalizing f with
  | nil =>
    cases h
    exact ⟨nofun, by simp, by simp, by simp⟩
  | cons b bs ih =>
    rw [List.foldlM_cons] at h
    obtain ⟨f', hpush, h⟩ := Res.bind_eq_ok.1 h
    have hs := ih h
    by_cases hn : b.isNameOfStation
    · obtain ⟨s, hv, rfl⟩ := (IdentifyFilter.push_name hn f f').1 hpush
      have hall := DcpBlock.not_isAllSelector hn
      refine ⟨?_, ?_, ?_, ?_⟩
      · intro c hc hcn
        rcases List.mem_cons.1 hc with rfl | hc
        · exact hv ▸ s.valid
        · exact hs.valid c hc hcn
      · rw [hs.name, lastName_cons_name hn, Option.or_assoc, ← hv]
        rfl
      · rw [hs.all, List.any_cons, hall, Bool.false_or]
      · rw [hs.others, List.filter_cons_of_neg (by simp [DcpBlock.isOther, hn])]
    · rw [Bool.not_eq_true] at hn
      have hvalid : NamesValid (b :: bs) := by
        intro c hc hcn
        rcases List.mem_cons.1 hc with rfl | hc
        · rw [hn] at hcn
          cases hcn
        · exact hs.valid c hc hcn
      by_cases ha : b.isAllSelector
      · rw [IdentifyFilter.push_all ha] at hpush
        cases hpush
        refine ⟨hvalid, ?_, ?_, ?_⟩
        · rw [hs.name, lastName_cons_skip hn]
        · rw [hs.all, List.any_cons, ha]
          simp
        · rw [hs.others, List.filter_cons_of_neg (by simp [DcpBlock.isOther, ha])]
      · have ho : b.isOther := by simp [DcpBlock.isOther, hn, ha]
        rw [IdentifyFilter.push_other ho] at hpush
        cases hpush
        rw [Bool.not_eq_true] at ha
        refine ⟨hvalid, ?_, ?_, ?_⟩
        · rw [hs.name, lastName_cons_skip hn]
        · rw [hs.all, List.any_cons, ha, Bool.false_or]
        · rw [hs.others, List.filter_cons_of_pos ho]
          simp

/-- Only a name that is no string stops the fold. -/
lemma exists_foldlM {blocks : List DcpBlock} (h : NamesValid blocks) (f : IdentifyFilter) :
    ∃ g, blocks.foldlM IdentifyFilter.push f = .ok g := by
  induction blocks generalizing f with
  | nil => exact ⟨f, rfl⟩
  | cons b bs ih =>
    have hbs : NamesValid bs := fun c hc => h c (List.mem_cons_of_mem _ hc)
    obtain ⟨f', hpush⟩ : ∃ f', f.push b = .ok f' := by
      by_cases hn : b.isNameOfStation
      · exact ⟨_, (IdentifyFilter.push_name hn f _).2 ⟨⟨b.value, h b (by simp) hn⟩, rfl, rfl⟩⟩
      · by_cases ha : b.isAllSelector
        · exact ⟨_, IdentifyFilter.push_all ha f⟩
        · exact ⟨_, IdentifyFilter.push_other (by simp [DcpBlock.isOther, hn, ha]) f⟩
    obtain ⟨g, hg⟩ := ih hbs f'
    exact ⟨g, by rw [List.foldlM_cons, hpush, Res.ok_bind, hg]⟩

/-! ### The decision -/

/-- The filter as the handler sees it: only names and AllSelectors, at least one, and the last
name, if there is one, is that of the station. -/
structure LastNameFits (props : DeviceProperties) (blocks : List DcpBlock) : Prop where
  valid : NamesValid blocks
  asked : blocks ≠ []
  known : ∀ b ∈ blocks, b.isNameOfStation ∨ b.isAllSelector
  last : ∀ n, lastName blocks = some n → n = props.nameOfStation.bytes

lemma lastName_eq_none {blocks : List DcpBlock} :
    lastName blocks = none ↔ ∀ b ∈ blocks, b.isNameOfStation = false := by
  simp [lastName]

lemma mem_of_lastName {blocks : List DcpBlock} {n : Bytes} (h : lastName blocks = some n) :
    ∃ b ∈ blocks, b.isNameOfStation ∧ b.value = n := by
  obtain ⟨b, hb, rfl⟩ := Option.map_eq_some_iff.1 h
  have hmem := List.mem_of_getLast? hb
  rw [List.mem_filter] at hmem
  exact ⟨b, hmem.1, hmem.2, rfl⟩

/-- The record decides as the last name does. -/
lemma respond_iff {blocks : List DcpBlock} {g : IdentifyFilter} {props : DeviceProperties}
    (h : Summary {} blocks g) : g.respond props ↔ LastNameFits props blocks := by
  have hname : g.nameOfStation.map Str.bytes = lastName blocks := by simpa using h.name
  have hall : g.allSelector = blocks.any DcpBlock.isAllSelector := by simpa using h.all
  have hothers : g.otherFilters = [] ↔ ∀ b ∈ blocks, b.isNameOfStation ∨ b.isAllSelector := by
    rw [h.others]
    simp only [List.nil_append, List.map_eq_nil_iff, List.filter_eq_nil_iff]
    refine forall₂_congr fun b _ => ?_
    cases hn : b.isNameOfStation <;> cases ha : b.isAllSelector <;> simp [DcpBlock.isOther, hn, ha]
  by_cases hk : g.otherFilters = []
  · have hknown := hothers.1 hk
    rw [IdentifyFilter.respond, if_neg (not_not.2 hk)]
    cases hg : g.nameOfStation with
    | none =>
      rw [hg] at hname
      have hnone := lastName_eq_none.1 hname.symm
      simp only [hall, List.any_eq_true]
      constructor
      · rintro ⟨b, hb, -⟩
        refine ⟨h.valid, List.ne_nil_of_mem hb, hknown, fun n hn => ?_⟩
        rw [← hname] at hn
        cases hn
      · intro hf
        obtain ⟨b, hb⟩ := List.exists_mem_of_ne_nil _ hf.asked
        refine ⟨b, hb, (hknown b hb).resolve_left ?_⟩
        rw [hnone b hb]
        decide
    | some s =>
      rw [hg, Option.map_some] at hname
      obtain ⟨b, hb, -, -⟩ := mem_of_lastName hname.symm
      simp only [decide_eq_true_eq]
      constructor
      · rintro rfl
        refine ⟨h.valid, List.ne_nil_of_mem hb, hknown, fun n hn => ?_⟩
        rw [← hname] at hn
        cases hn
        rfl
      · intro hf
        exact Str.eq_of_bytes (hf.last _ hname.symm)
  · rw [IdentifyFilter.respond, if_pos hk]
    constructor
    · intro h
      cases h
    · intro hf
      exact absurd (hothers.2 hf.known) hk

/-! ### The frames that are answered -/

/-- A PROFINET frame with the FrameID of an Identify request: its Ethernet header, its DCP header
and its filter blocks. -/
def ReadsIdentify (frame : Bytes) (eth : EthHeader) (header : DcpHeader)
    (blocks : List DcpBlock) : Prop :=
  ∃ rest bytes, dcpPayload frame = .ok (some (eth, .identifyRequest, rest)) ∧
    DcpHeader.parse rest = .ok (header, bytes) ∧ parseBlocks bytes false = .ok blocks

/-- The handler returns an Identify response. -/
def AnswersIdentify (cfg : DcpConfig) (frame out : Bytes) : Prop :=
  handleDcpFrame frame cfg = .ok (some out) ∧ half out 14 = some FrameId.identifyResponse.toU16

/-- The FrameID of a reply. -/
lemma frameId_buildResponse (dst src : MacAddr) (frameId : FrameId) (serviceId : ServiceId)
    (xid : UInt32) (blocks : List DcpBlock) :
    half (buildResponse dst src frameId serviceId xid blocks) 14 = some frameId.toU16 := by
  rw [← u16At_eq_ok (ε := DcpError)]
  simp (disch := simp) [buildResponse, u16At_append_right, List.append_assoc]

/-- Exactly the frames whose last name fits are answered. -/
lemma answersIdentify_iff {cfg : DcpConfig} {frame out : Bytes} :
    AnswersIdentify cfg frame out ↔ ∃ eth header blocks, ReadsIdentify frame eth header blocks ∧
      LastNameFits cfg.properties blocks ∧
      out = buildIdentifyResponse eth.src cfg.mac header.xid cfg.properties := by
  constructor
  · rintro ⟨h, hid⟩
    unfold handleDcpFrame at h
    obtain ⟨payload, hp, h⟩ := Res.bind_eq_ok.1 h
    match payload with
    | some (eth, .identifyRequest, rest) =>
      obtain ⟨⟨header, bytes⟩, hh, h⟩ := Res.bind_eq_ok.1 h
      obtain ⟨filter, hf, h⟩ := Res.bind_eq_ok.1 h
      obtain ⟨blocks, hb, hf⟩ := Res.bind_eq_ok.1 hf
      split_ifs at h with hr
      · cases h
        exact ⟨eth, header, blocks, ⟨rest, bytes, hp, hh, hb⟩,
          (respond_iff (summary_of_foldlM hf)).1 hr, rfl⟩
      · cases h
    | some (eth, .getSet, rest) =>
      obtain ⟨⟨header, bytes⟩, hh, h⟩ := Res.bind_eq_ok.1 h
      dsimp only at h
      split_ifs at h with hs
      · cases h
      · obtain ⟨req, -, h⟩ := Res.bind_eq_ok.1 h
        cases h
        rw [buildSetResponse, frameId_buildResponse] at hid
        cases hid
    | some (eth, .identifyResponse, rest) => cases h
    | some (eth, .hello, rest) => cases h
    | none => cases h
  · rintro ⟨eth, header, blocks, ⟨rest, bytes, hp, hh, hb⟩, hfits, rfl⟩
    obtain ⟨filter, hf⟩ := exists_foldlM hfits.valid {}
    have hr := (respond_iff (summary_of_foldlM hf)).2 hfits
    have hparse : parseIdentifyRequest bytes = .ok filter := by
      rw [parseIdentifyRequest, hb, Res.ok_bind, hf]
    refine ⟨?_, frameId_buildResponse ..⟩
    rw [handleDcpFrame, hp, Res.ok_bind]
    simp only [answerIdentify, hh, hparse, Res.ok_bind, hr, if_true]

/-- The frame asks for this device: an Identify request with at least one filter block, and all
of them match. -/
structure Asks (props : DeviceProperties) (header : DcpHeader) (blocks : List DcpBlock) :
    Prop where
  service : header.serviceId = .identify ∧ header.serviceType = .request
  asked : blocks ≠ []
  all : ∀ b ∈ blocks, b.Matches props

/-- A filter that asks for the device passes the handler. -/
lemma Asks.lastNameFits {props : DeviceProperties} {header : DcpHeader} {blocks : List DcpBlock}
    (h : Asks props header blocks) : LastNameFits props blocks := by
  have hvalue : ∀ b ∈ blocks, b.isNameOfStation → b.value = props.nameOfStation.bytes := by
    intro b hb hn
    rcases h.all b hb with ha | ⟨-, hv⟩
    · rw [DcpBlock.not_isAllSelector hn] at ha
      cases ha
    · exact hv
  refine ⟨fun b hb hn => ?_, h.asked, fun b hb => ?_, fun n hn => ?_⟩
  · rw [hvalue b hb hn]
    exact props.nameOfStation.valid
  · rcases h.all b hb with ha | ⟨hn, -⟩
    · exact .inr ha
    · exact .inl hn
  · obtain ⟨b, hb, hbn, rfl⟩ := mem_of_lastName hn
    exact hvalue b hb hbn

/-- What an answer to a request with this header says: it goes to the sender, with the same
transaction, and its seven blocks are the identity: the name, the options, the type of the station,
the vendor and device numbers, the role, the instance and the IP suite. -/
def Identifies (cfg : DcpConfig) (eth : EthHeader) (header : DcpHeader) (out : Bytes) : Prop :=
  ∃ eth' rest header' bytes, dcpPayload out = .ok (some (eth', .identifyResponse, rest)) ∧
    DcpHeader.parse rest = .ok (header', bytes) ∧ eth'.dst = eth.src ∧ eth'.src = cfg.mac ∧
    header'.serviceId = .identify ∧ header'.serviceType = .responseSuccess ∧
    header'.xid = header.xid ∧
    parseBlocks bytes true = .ok
      [⟨2, 2, some 0, cfg.properties.nameOfStation.bytes⟩,
        ⟨2, 5, some 0, cfg.properties.deviceOptions⟩,
        ⟨2, 1, some 0, cfg.properties.typeOfStation.bytes⟩,
        ⟨2, 3, some 0, be16 cfg.properties.vendorId ++ be16 cfg.properties.deviceId⟩,
        ⟨2, 4, some 0, be16 cfg.properties.deviceRole⟩,
        ⟨2, 7, some 0, be16 cfg.properties.deviceInstance⟩,
        ⟨1, 2, some cfg.properties.ipBlockInfo, cfg.properties.ip.bytes ++
          cfg.properties.subnet.bytes ++ cfg.properties.gateway.bytes⟩]

lemma identifies_buildIdentifyResponse {cfg : DcpConfig}
    (hl : totalLen (identifyBlocks cfg.properties) ≤ 65535) (eth : EthHeader) (header : DcpHeader) :
    Identifies cfg eth header
      (buildIdentifyResponse eth.src cfg.mac header.xid cfg.properties) := by
  have hwritable : Writable true (identifyBlocks cfg.properties) := by
    intro b hb
    refine ⟨?_, Nat.lt_succ_of_le ((blockLen_le_totalLen hb).trans hl)⟩
    revert b
    simp [identifyBlocks]
  obtain ⟨rest, header', bytes, hp, hh, hid, hty, hxid, hblocks⟩ :=
    reads_buildResponse eth.src cfg.mac .identifyResponse .identify header.xid hwritable hl
  exact ⟨_, rest, header', bytes, hp, hh, rfl, rfl, hid, hty, hxid, hblocks⟩

/-- What is to hold of a frame: it is answered as an Identify if and only if it asks for this
device, and the answer identifies the device to the one who asked. -/
def IdentifyLaw (cfg : DcpConfig) (frame : Bytes) : Prop :=
  ((∃ out, AnswersIdentify cfg frame out) ↔
    ∃ eth header blocks, ReadsIdentify frame eth header blocks ∧
      Asks cfg.properties header blocks) ∧
  ∀ out, AnswersIdentify cfg frame out → ∃ eth header blocks,
    ReadsIdentify frame eth header blocks ∧ Identifies cfg eth header out

lemma ReadsIdentify.unique {frame : Bytes} {eth eth' : EthHeader} {header header' : DcpHeader}
    {blocks blocks' : List DcpBlock} (h : ReadsIdentify frame eth header blocks)
    (h' : ReadsIdentify frame eth' header' blocks') :
    eth' = eth ∧ header' = header ∧ blocks' = blocks := by
  obtain ⟨rest, bytes, hp, hh, hb⟩ := h
  obtain ⟨rest', bytes', hp', hh', hb'⟩ := h'
  rw [hp] at hp'
  cases hp'
  rw [hh] at hh'
  cases hh'
  rw [hb] at hb'
  cases hb'
  exact ⟨rfl, rfl, rfl⟩

/-- **Identify requests are answered as they should exactly if the last name speaks for all.**
For every identity that fits a response and every frame, the law holds if and only if a frame with
the FrameID of an Identify request whose last name fits has the header of an Identify request, and
all its other names are that of the station too. -/
theorem identifyLaw_iff {cfg : DcpConfig}
    (hl : totalLen (identifyBlocks cfg.properties) ≤ 65535) (frame : Bytes) :
    IdentifyLaw cfg frame ↔
      ∀ eth header blocks, ReadsIdentify frame eth header blocks →
        LastNameFits cfg.properties blocks →
        header.serviceId = .identify ∧ header.serviceType = .request ∧
          ∀ b ∈ blocks, b.isNameOfStation → b.value = cfg.properties.nameOfStation.bytes := by
  constructor
  · rintro ⟨hiff, -⟩ eth header blocks hread hfits
    obtain ⟨eth', header', blocks', hread', hasks⟩ :=
      hiff.1 ⟨_, answersIdentify_iff.2 ⟨eth, header, blocks, hread, hfits, rfl⟩⟩
    obtain ⟨rfl, rfl, rfl⟩ := hread.unique hread'
    refine ⟨hasks.service.1, hasks.service.2, fun b hb hn => ?_⟩
    rcases hasks.all b hb with ha | ⟨-, hv⟩
    · rw [DcpBlock.not_isAllSelector hn] at ha
      cases ha
    · exact hv
  · intro hcond
    refine ⟨⟨?_, ?_⟩, ?_⟩
    · rintro ⟨out, hout⟩
      obtain ⟨eth, header, blocks, hread, hfits, -⟩ := answersIdentify_iff.1 hout
      obtain ⟨hid, htype, hnames⟩ := hcond eth header blocks hread hfits
      refine ⟨eth, header, blocks, hread, ⟨hid, htype⟩, hfits.asked, fun b hb => ?_⟩
      rcases hfits.known b hb with hn | ha
      · exact .inr ⟨hn, hnames b hb hn⟩
      · exact .inl ha
    · rintro ⟨eth, header, blocks, hread, hasks⟩
      exact ⟨_, answersIdentify_iff.2 ⟨eth, header, blocks, hread, hasks.lastNameFits, rfl⟩⟩
    · intro out hout
      obtain ⟨eth, header, blocks, hread, -, rfl⟩ := answersIdentify_iff.1 hout
      exact ⟨eth, header, blocks, hread, identifies_buildIdentifyResponse hl eth header⟩

namespace DcpDemo

def nameBlock (c : UInt8) : DcpBlock := ⟨2, 2, none, [c]⟩

/-- The header of a frame with these two blocks. -/
def identifyHeader (serviceId : ServiceId) (serviceType : ServiceType) (c d : UInt8) : DcpHeader :=
  ⟨serviceId, serviceType, 7, 1, blocksEncodedLen [nameBlock c, nameBlock d]⟩

/-- A frame with the FrameID of an Identify request and two names of one letter. -/
def identifyFrame (serviceId : ServiceId) (serviceType : ServiceType) (c d : UInt8) : Bytes :=
  EthHeader.write ⟨mac, MacAddr.of 2 0 0 0 0 2, none, ethertypeProfinet⟩ ++
    (be16 FrameId.identifyRequest.toU16 ++
      ((identifyHeader serviceId serviceType c d).write ++
        writeBlocks [nameBlock c, nameBlock d]))

lemma reads_identifyFrame (serviceId : ServiceId) (serviceType : ServiceType) (c d : UInt8) :
    ReadsIdentify (identifyFrame serviceId serviceType c d)
      ⟨mac, MacAddr.of 2 0 0 0 0 2, none, ethertypeProfinet⟩
      (identifyHeader serviceId serviceType c d) [nameBlock c, nameBlock d] := by
  have hlen : (writeBlocks [nameBlock c, nameBlock d]).length =
      (identifyHeader serviceId serviceType c d).dataLength.toNat := rfl
  have hparse := DcpHeader.parse_write hlen []
  rw [List.append_nil] at hparse
  refine ⟨_, _, dcpPayload_write _ _ _ _, hparse, parseBlocks_writeBlocks ?_⟩
  intro b hb
  simp only [List.mem_cons, List.not_mem_nil, or_false] at hb
  rcases hb with rfl | rfl
  · exact ⟨rfl, by simp [nameBlock, DcpBlock.blockLen]⟩
  · exact ⟨rfl, by simp [nameBlock, DcpBlock.blockLen]⟩

/-- The last name is that of the station, whatever the first. -/
lemma lastNameFits_identify {c : UInt8} (hc : c < 0x80) :
    LastNameFits station.properties [nameBlock c, nameBlock 0x61] := by
  refine ⟨?_, by simp, ?_, ?_⟩
  · intro b hb _
    simp only [List.mem_cons, List.not_mem_nil, or_false] at hb
    rcases hb with rfl | rfl
    · exact utf8Valid_of_ascii (by simpa [nameBlock] using hc)
    · decide
  · intro b hb
    simp only [List.mem_cons, List.not_mem_nil, or_false] at hb
    rcases hb with rfl | rfl
    · exact .inl rfl
    · exact .inl rfl
  · intro n hn
    cases hn
    rfl

lemma station_fits : totalLen (identifyBlocks station.properties) ≤ 65535 := by
  decide +kernel

end DcpDemo

/-- The name of the station, twice: the law holds, and there is an answer. -/
theorem identifyLaw_same_name_twice :
    IdentifyLaw DcpDemo.station (DcpDemo.identifyFrame .identify .request 0x61 0x61) ∧
      ∃ out, AnswersIdentify DcpDemo.station
        (DcpDemo.identifyFrame .identify .request 0x61 0x61) out := by
  have hread := DcpDemo.reads_identifyFrame .identify .request 0x61 0x61
  refine ⟨(identifyLaw_iff DcpDemo.station_fits _).2 fun eth header blocks hread' _ => ?_, _,
    answersIdentify_iff.2 ⟨_, _, _, hread, DcpDemo.lastNameFits_identify (by decide), rfl⟩⟩
  obtain ⟨-, rfl, rfl⟩ := hread.unique hread'
  refine ⟨rfl, rfl, fun b hb _ => ?_⟩
  simp only [List.mem_cons, List.not_mem_nil, or_false] at hb
  rcases hb with rfl | rfl
  · rfl
  · rfl

/-- The station `a` answers a request for the names `b` and `a`, and it answers a frame with the
FrameID of an Identify request and the header of a Get response. -/
theorem identify_answers_too_much :
    totalLen (identifyBlocks DcpDemo.station.properties) ≤ 65535 ∧
      ¬ IdentifyLaw DcpDemo.station (DcpDemo.identifyFrame .identify .request 0x62 0x61) ∧
      ¬ IdentifyLaw DcpDemo.station (DcpDemo.identifyFrame .get .responseSuccess 0x61 0x61) := by
  refine ⟨DcpDemo.station_fits, ?_, ?_⟩
  · rintro ⟨hiff, -⟩
    have hread := DcpDemo.reads_identifyFrame .identify .request 0x62 0x61
    obtain ⟨eth, header, blocks, hread', hasks⟩ := hiff.1 ⟨_, answersIdentify_iff.2
      ⟨_, _, _, hread, DcpDemo.lastNameFits_identify (by decide), rfl⟩⟩
    obtain ⟨-, -, rfl⟩ := hread.unique hread'
    rcases hasks.all (DcpDemo.nameBlock 0x62) (by simp) with h | ⟨-, h⟩
    · cases h
    · exact absurd h (by decide)
  · rintro ⟨hiff, -⟩
    have hread := DcpDemo.reads_identifyFrame .get .responseSuccess 0x61 0x61
    obtain ⟨eth, header, blocks, hread', hasks⟩ := hiff.1 ⟨_, answersIdentify_iff.2
      ⟨_, _, _, hread, DcpDemo.lastNameFits_identify (by decide), rfl⟩⟩
    obtain ⟨-, rfl, -⟩ := hread.unique hread'
    cases hasks.service.1

end Pnio
