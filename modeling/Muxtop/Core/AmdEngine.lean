import Mathlib.Data.String.Basic
import Muxtop.Core.NvmlEngine
import Muxtop.Foundation.Numerals
import Muxtop.Foundation.StableSort

/-!
# The AMD engine

`muxtop-core/src/amd_engine.rs`, over a file tree that is given by what its files and directories read as.
A card is numbered by its place among the cards found at connect time, which are sorted by the numbers in
their names; `read_dir` lists a directory in an order of its own.
-/

namespace Muxtop.Core

/-- The components of a path below the root. -/
abbrev Path := List String

/-- What the files read as, and the names in the directories; names that are no text are left out. -/
structure Sysfs where
  readToString : Path → Option String
  readDir : Path → Option (List String)

namespace Sysfs

/-- The trimmed text of a file. -/
def readTrimmed (fs : Sysfs) (path : Path) : Option String := (fs.readToString path).map Text.trim

def readU64 (fs : Sysfs) (path : Path) : Option UInt64 := (fs.readTrimmed path).bind Text.parseU64

/-- A text in a file. -/
def write (fs : Sysfs) (path : Path) (text : String) : Sysfs :=
  { fs with readToString := fun path' => if path' = path then some text else fs.readToString path' }

end Sysfs

/-- `Path::display` of an absolute path. -/
def Path.display (path : Path) : String := "/" ++ "/".intercalate path

/-- Telemetry of the cards found at connect time, by their `device` directories. -/
structure AmdEngine where
  cards : List Path
  driverVersion : Option String

namespace AmdEngine

open Sysfs

/-! ## Discovery -/

def drmRoot : Path := ["sys", "class", "drm"]

def pciVendorAmd : String := "0x1002"

/-- The number of `cardN`; the digits go to the end of the name, which leaves out the connectors. -/
def parseCardNumber (name : String) : Option UInt32 :=
  (Text.stripPrefix name "card").bind fun rest =>
    if rest.isEmpty || !rest.toList.all Char.isDigit then none else Text.parseU32 rest

def isAmdCard (fs : Sysfs) (deviceDir : Path) : Bool :=
  ((fs.readTrimmed (deviceDir ++ ["vendor"])).map fun v =>
    Text.eqIgnoreAsciiCase v.toList pciVendorAmd).getD false

/-- The card of an entry of the DRM directory. -/
def probe (fs : Sysfs) (root : Path) (name : String) : Option (UInt32 × Path) :=
  (parseCardNumber name).bind fun cardNumber =>
    let deviceDir := root ++ [name, "device"]
    if isAmdCard fs deviceDir then some (cardNumber, deviceDir) else none

def discoverCards (fs : Sysfs) (root : Path) : List Path :=
  match fs.readDir root with
  | none => []
  | some entries =>
    (StableSort.sortByKey (·.1.toNat) (entries.filterMap (probe fs root))).map Prod.snd

def connectAt (fs : Sysfs) (root : Path) : Except GpuError AmdEngine :=
  let cards := discoverCards fs root
  if cards.isEmpty then
    .error (.driverUnavailable "AMD" ("no amdgpu card found under " ++ root.display))
  else
    .ok ⟨cards, fs.readTrimmed ["sys", "module", "amdgpu", "version"]⟩

def connect (fs : Sysfs) : Except GpuError AmdEngine := connectAt fs drmRoot

/-! ## One card -/

/-- `str::lines` -/
def lines (s : String) : List String :=
  let pieces := s.toList.splitOn '\n'
  let last := pieces.getLast?.getD []
  ((pieces.dropLast.map fun piece =>
    if piece.getLast? = some '\r' then piece.dropLast else piece) ++
      if last = [] then [] else [last]).map String.ofList

/-- The value after the colon of a line of a table of states. -/
def dpmValue (line : String) : Option String :=
  (line.toList.splitOn ':')[1]?.map fun field =>
    Text.asciiLowercase (Text.trim (Text.trimEndMatches (Text.trim (String.ofList field)) '*'))

/-- The clock of the first line with a star that has one. -/
def activeDpmMhz : List String → Option UInt32
  | [] => none
  | line :: rest =>
    let line := Text.trim line
    if line.toList.getLast? ≠ some '*' then activeDpmMhz rest
    else
      match dpmValue line with
      | none => none
      | some value =>
        let digits := value.toList.takeWhile Char.isDigit
        if digits.isEmpty then activeDpmMhz rest else Text.parseU32 (String.ofList digits)

def readActiveDpmMhz (fs : Sysfs) (path : Path) : Option UInt32 :=
  (fs.readTrimmed path).bind fun content => activeDpmMhz (lines content)

def hzToMhz (hz : UInt64) : UInt32 := (hz / 1000000).toUInt32

def uwToWatts (uw : UInt64) : F32 := ⟨(uw.toFloat32 / 1000000).toBits⟩

/-- The first of the `hwmon*` directories. -/
def findHwmon (fs : Sysfs) (deviceDir : Path) : Option Path :=
  (fs.readDir (deviceDir ++ ["hwmon"])).bind fun entries =>
    (((entries.filter (Text.startsWith · "hwmon")).mergeSort fun a b => decide (a ≤ b)).head?).map
      fun name => deviceDir ++ ["hwmon", name]

/-- The duty cycle as a percentage, clamped. -/
def readFanPct (fs : Sysfs) (hwmon : Path) : Option F32 :=
  (fs.readU64 (hwmon ++ ["pwm1"])).map fun pwm =>
    let max := ((fs.readU64 (hwmon ++ ["pwm1_max"])).filter (0 < ·)).getD 255
    let pct := pwm.toFloat32 / max.toFloat32 * 100
    let pct := if pct < 0 then 0 else pct
    ⟨(if 100 < pct then 100 else pct).toBits⟩

/-- The marketing name, the PCI id where there is none. -/
def readDeviceName (fs : Sysfs) (deviceDir : Path) : String :=
  match (fs.readTrimmed (deviceDir ++ ["product_name"])).filter (· ≠ "") with
  | some name => name
  | none =>
    match (fs.readTrimmed (deviceDir ++ ["device"])).filter (· ≠ "") with
    | some id => "AMD GPU " ++ id
    | none => "AMD GPU"

/-- The PCI slot name that `uevent` tells. -/
def readBusId (fs : Sysfs) (deviceDir : Path) : String :=
  (((fs.readTrimmed (deviceDir ++ ["uevent"])).bind fun uevent =>
    (lines uevent).findSome? (Text.stripPrefix · "PCI_SLOT_NAME=")).map Text.trim).getD ""

def readDevice (fs : Sysfs) (deviceDir : Path) (index : UInt32) (driverVersion : Option String) :
    GpuDeviceSnapshot :=
  let hwmon := findHwmon fs deviceDir
  let sensor (file : String) : Option UInt64 := hwmon.bind fun h => fs.readU64 (h ++ [file])
  { index := index
    vendor := .amd
    backend := .amdSysfs
    name := readDeviceName fs deviceDir
    busId := readBusId fs deviceDir
    driverVersion := driverVersion
    utilizationPct := (fs.readU64 (deviceDir ++ ["gpu_busy_percent"])).map fun v => ⟨v.toFloat32.toBits⟩
    memUtilizationPct := (fs.readU64 (deviceDir ++ ["mem_busy_percent"])).map fun v => ⟨v.toFloat32.toBits⟩
    memUsedBytes := fs.readU64 (deviceDir ++ ["mem_info_vram_used"])
    memTotalBytes := fs.readU64 (deviceDir ++ ["mem_info_vram_total"])
    temperatureC := (sensor "temp1_input").map fun v => ⟨(v.toFloat32 / 1000).toBits⟩
    powerWatts := ((sensor "power1_average").or (sensor "power1_input")).map uwToWatts
    powerLimitWatts := (sensor "power1_cap").map uwToWatts
    graphicsClockMhz :=
      ((sensor "freq1_input").map hzToMhz).or (readActiveDpmMhz fs (deviceDir ++ ["pp_dpm_sclk"]))
    memoryClockMhz :=
      ((sensor "freq2_input").map hzToMhz).or (readActiveDpmMhz fs (deviceDir ++ ["pp_dpm_mclk"]))
    fanPct := hwmon.bind (readFanPct fs)
    encoderPct := none
    decoderPct := none
    supportsProcessStats := false }

/-- `collect`: one row for each card, whatever can be read of it. -/
def collect (fs : Sysfs) (engine : AmdEngine) : GpusSnapshot :=
  let devices := engine.cards.zipIdx.map fun card =>
    readDevice fs card.1 (.ofNat card.2) engine.driverVersion
  if devices.isEmpty then .unavailableWith "no amdgpu card readable"
  else
    { backends := [.amdSysfs]
      available := true
      devices := devices
      processes := []
      detail := "" }

/-! ## What is found -/

/-- The name of a card: `card` and its number in digits, the connectors of the card left out. -/
def IsCard (name : String) (number : UInt32) : Prop :=
  ∃ digits, name = "card" ++ digits ∧ Text.IsNumeral digits.toList ∧
    Text.ofDigits digits.toList = number.toNat

/-- What is left of a text is what follows the prefix. -/
theorem stripPrefix_eq_some_iff {s affix rest : String} :
    Text.stripPrefix s affix = some rest ↔ s = affix ++ rest := by
  unfold Text.stripPrefix
  constructor
  · intro h
    obtain ⟨cs, hcs, rfl⟩ := Option.map_eq_some_iff.1 h
    rw [List.isPrefixOf?_eq_some_iff_append_eq] at hcs
    apply String.toList_inj.1
    rw [String.toList_append, String.toList_ofList, hcs]
  · rintro rfl
    rw [List.isPrefixOf?_eq_some_iff_append_eq.2 String.toList_append.symm, Option.map_some,
      String.ofList_toList]

/-- The parser takes the names of cards, connectors left out. -/
theorem parseCardNumber_eq_some_iff {name : String} {number : UInt32} :
    parseCardNumber name = some number ↔ IsCard name number := by
  -- what is left of the name is a number when it is nothing but digits, and fits
  have hdigits (rest : String) :
      (if rest.isEmpty || !rest.toList.all Char.isDigit then none else Text.parseU32 rest) = some number ↔
        Text.IsNumeral rest.toList ∧ Text.ofDigits rest.toList = number.toNat := by
    by_cases hnumeral : Text.IsNumeral rest.toList
    · have hvalid : ¬ (rest.isEmpty || !rest.toList.all Char.isDigit) = true := by
        have hne : rest ≠ "" := fun h => hnumeral.1 (by rw [h]; rfl)
        simpa [hnumeral.2] using hne
      have hparse := @Text.parseUnsigned_numeral UInt32.size _ hnumeral
      rw [String.ofList_toList] at hparse
      rw [if_neg hvalid, Text.parseU32, hparse]
      have hlt := number.toNat_lt_size
      constructor
      · intro h
        split_ifs at h with hfits
        · refine ⟨hnumeral, ?_⟩
          rw [← Option.some.inj h]
          exact (UInt32.toNat_ofNat_of_lt' hfits).symm
        · cases h
      · rintro ⟨-, hsame⟩
        rw [hsame, if_pos hlt, Option.map_some, UInt32.ofNat_toNat]
    -- an empty rest or another character: `card0-DP-1` is a connector
    · have hinvalid : (rest.isEmpty || !rest.toList.all Char.isDigit) = true := by
        by_contra hvalid
        refine hnumeral ⟨?_, ?_⟩
        · intro hnil
          exact hvalid (by simp [String.toList_eq_nil_iff.1 hnil])
        · by_contra hother
          exact hvalid (by simp [hother])
      rw [if_pos hinvalid]
      exact ⟨nofun, fun h => absurd h.1 hnumeral⟩
  unfold parseCardNumber
  rw [Option.bind_eq_some_iff]
  constructor
  · rintro ⟨rest, hrest, hnumber⟩
    exact ⟨rest, stripPrefix_eq_some_iff.1 hrest, (hdigits rest).1 hnumber⟩
  · rintro ⟨rest, hrest, hnumber⟩
    exact ⟨rest, stripPrefix_eq_some_iff.2 hrest, (hdigits rest).2 hnumber⟩

/-- The names in a directory; there are none in one that cannot be read. -/
def listing (fs : Sysfs) (path : Path) : List String := (fs.readDir path).getD []

/-- The cards of a directory with their numbers, in the order in which it lists them. -/
def numbered (fs : Sysfs) (root : Path) : List (UInt32 × Path) := (listing fs root).filterMap (probe fs root)

/-- The cards that are found are those of the listing that have the driver's files. -/
theorem mem_numbered {fs : Sysfs} {root dir : Path} {number : UInt32} :
    (number, dir) ∈ numbered fs root ↔
      ∃ name ∈ listing fs root, IsCard name number ∧ dir = root ++ [name, "device"] ∧
        isAmdCard fs dir = true := by
  unfold numbered
  rw [List.mem_filterMap]
  refine exists_congr fun name => and_congr_right fun _ => ?_
  unfold probe
  rw [Option.bind_eq_some_iff]
  constructor
  · rintro ⟨n, hn, hprobe⟩
    dsimp only at hprobe
    split_ifs at hprobe with hamd
    cases hprobe
    exact ⟨parseCardNumber_eq_some_iff.1 hn, rfl, hamd⟩
  · rintro ⟨hcard, rfl, hamd⟩
    exact ⟨number, parseCardNumber_eq_some_iff.2 hcard, if_pos hamd⟩

/-- They are taken in the order of their numbers. -/
theorem discoverCards_eq (fs : Sysfs) (root : Path) :
    discoverCards fs root = (StableSort.sortByKey (·.1.toNat) (numbered fs root)).map Prod.snd := by
  unfold discoverCards numbered listing
  cases fs.readDir root <;> rfl

/-- One file tree, its directories listed in one order and in another. -/
structure SameTree (fs fs' : Sysfs) : Prop where
  files : fs'.readToString = fs.readToString
  exists_iff : ∀ path, (fs'.readDir path).isSome = (fs.readDir path).isSome
  perm : ∀ path, (listing fs' path).Perm (listing fs path)

namespace SameTree

variable {fs fs' : Sysfs}

/-- Reading a file does not depend on the order of listings. -/
theorem readTrimmed (h : SameTree fs fs') : fs'.readTrimmed = fs.readTrimmed := by
  funext path
  unfold Sysfs.readTrimmed
  rw [h.files]

/-- Nor does reading a number. -/
theorem readU64 (h : SameTree fs fs') : fs'.readU64 = fs.readU64 := by
  funext path
  unfold Sysfs.readU64
  rw [h.readTrimmed]

/-- The cards are found in another order, which sorting undoes. -/
theorem numbered (h : SameTree fs fs') (root : Path) :
    (AmdEngine.numbered fs' root).Perm (AmdEngine.numbered fs root) := by
  have hprobe : probe fs' root = probe fs root := by
    funext name
    unfold probe isAmdCard
    rw [h.readTrimmed]
  unfold AmdEngine.numbered
  rw [hprobe]
  exact (h.perm root).filterMap _

/-- The sensor directory is the first by name. -/
theorem findHwmon (h : SameTree fs fs') (deviceDir : Path) :
    AmdEngine.findHwmon fs' deviceDir = AmdEngine.findHwmon fs deviceDir := by
  have hfound (fs : Sysfs) : AmdEngine.findHwmon fs deviceDir =
      ((((listing fs (deviceDir ++ ["hwmon"])).filter (Text.startsWith · "hwmon")).mergeSort
        fun a b => decide (a ≤ b)).head?).map fun name => deviceDir ++ ["hwmon", name] := by
    unfold AmdEngine.findHwmon listing
    rcases fs.readDir (deviceDir ++ ["hwmon"]) with _ | entries
    · rw [Option.getD_none, List.filter_nil, List.mergeSort_nil]
      rfl
    · rfl
  rw [hfound, hfound]
  have hperm := (h.perm (deviceDir ++ ["hwmon"])).filter (Text.startsWith · "hwmon")
  -- the names put in order are the same list
  have hsorted := List.Perm.eq_of_pairwise (fun a b _ _ => le_antisymm)
    (List.pairwise_mergeSort' (· ≤ ·) _) (List.pairwise_mergeSort' (· ≤ ·) _)
    ((List.mergeSort_perm _ _).trans (hperm.trans (List.mergeSort_perm _ _).symm))
  rw [hsorted]

/-- So the figures of a device do not depend on the order of listings. -/
theorem readDevice (h : SameTree fs fs') (deviceDir : Path) (index : UInt32)
    (driverVersion : Option String) :
    AmdEngine.readDevice fs' deviceDir index driverVersion =
      AmdEngine.readDevice fs deviceDir index driverVersion := by
  have hfan : readFanPct fs' = readFanPct fs := by
    funext hwmon
    unfold readFanPct
    rw [h.readU64]
  unfold AmdEngine.readDevice readDeviceName readBusId readActiveDpmMhz
  rw [h.findHwmon, hfan, h.readTrimmed, h.readU64]

end SameTree

/-- **The cards are found whatever the order of the directories.** The cards are the AMD devices of the
entries that are named like cards, in the order of their numbers; where no two have one number, the engine
is the same in whatever order the directory was listed; and so is every row of every snapshot, whatever the
numbers. -/
theorem discovery (fs : Sysfs) (root : Path) :
    (∃ found : List (UInt32 × Path), found.Perm (numbered fs root) ∧
      found.Pairwise (fun a b => a.1.toNat ≤ b.1.toNat) ∧ discoverCards fs root = found.map Prod.snd) ∧
    (∀ number dir, (number, dir) ∈ numbered fs root ↔
      ∃ name ∈ listing fs root, IsCard name number ∧ dir = root ++ [name, "device"] ∧
        isAmdCard fs dir = true) ∧
    ∀ fs', SameTree fs fs' →
      (((numbered fs root).map Prod.fst).Nodup → connectAt fs' root = connectAt fs root) ∧
      ∀ engine, collect fs' engine = collect fs engine := by
  refine ⟨⟨_, StableSort.sortByKey_perm _ _, ?_, discoverCards_eq fs root⟩, fun _ _ => mem_numbered,
    fun fs' hsame => ⟨fun hnodup => ?_, fun engine => ?_⟩⟩
  · have hsorted := StableSort.pairwise_sortByKey (fun card : UInt32 × Path => card.1.toNat)
      (numbered fs root)
    exact hsorted.imp fun hle => Nat.isLE_compare.1 hle
  · have hkeys : ((numbered fs root).map (·.1.toNat)).Nodup := by
      have hmap := hnodup.map fun a b => UInt32.toNat_inj.1
      rwa [List.map_map] at hmap
    -- with the numbers all different, sorting undoes the order of the listing
    have hcards : discoverCards fs' root = discoverCards fs root := by
      rw [discoverCards_eq, discoverCards_eq,
        StableSort.sortByKey_eq_of_perm (hsame.numbered root).symm hkeys]
    unfold connectAt
    rw [hcards, hsame.readTrimmed]
  · unfold collect
    simp only [hsame.readDevice]

/-! ## Tables of states -/

/-- A state of a table, the active one with its star. -/
def dpmLine (active : Option ℕ) (state : ℕ × ℕ) : String :=
  toString state.2 ++ ": " ++ toString state.1 ++ "Mhz" ++ if active = some state.2 then " *" else ""

/-- A table as the driver writes it: the clocks of the states in order, one state to a line. -/
def dpmTable (clocks : List ℕ) (active : Option ℕ) : String :=
  "\n".intercalate (clocks.zipIdx.map (dpmLine active)) ++ "\n"

/-- A line has the state, its clock, and a star if it is the active one. -/
theorem toList_dpmLine (active : Option ℕ) (state : ℕ × ℕ) :
    (dpmLine active state).toList =
      (toString state.2).toList ++ ':' :: ' ' :: ((toString state.1).toList ++ ['M', 'h', 'z'] ++
        if active = some state.2 then [' ', '*'] else []) := by
  unfold dpmLine
  split_ifs <;> simp

/-- A number is written in digits. -/
theorem isDigit_of_mem_toString {n : ℕ} {c : Char} (h : c ∈ (toString n).toList) : c.isDigit = true :=
  List.all_eq_true.1 (Text.isNumeral_toString n).2 c h

/-- A line has the characters of its number and clock and no others but these. -/
theorem mem_dpmLine {active : Option ℕ} {state : ℕ × ℕ} {c : Char} (h : c ∈ (dpmLine active state).toList) :
    c.isDigit = true ∨ c ∈ [':', ' ', 'M', 'h', 'z', '*'] := by
  rw [toList_dpmLine] at h
  simp only [List.mem_append, List.mem_cons] at h
  rcases h with h | rfl | rfl | (h | h) | h
  · exact .inl (isDigit_of_mem_toString h)
  · exact .inr (by decide)
  · exact .inr (by decide)
  · exact .inl (isDigit_of_mem_toString h)
  · right
    rcases h with rfl | rfl | rfl | h <;> first | decide | cases h
  · right
    split_ifs at h
    · rcases List.mem_cons.1 h with rfl | h
      · decide
      · rw [List.mem_singleton.1 h]
        decide
    · cases h

/-- The star tells the active line from the others. -/
theorem getLast?_dpmLine (active : Option ℕ) (state : ℕ × ℕ) :
    (dpmLine active state).toList.getLast? = some (if active = some state.2 then '*' else 'z') := by
  rw [toList_dpmLine]
  split_ifs <;> simp [List.getLast?_append, List.getLast?_cons]

/-- A line begins with a digit. -/
theorem head?_dpmLine {active : Option ℕ} {state : ℕ × ℕ} {c : Char}
    (h : c ∈ (dpmLine active state).toList.head?) : c.isDigit = true := by
  have hne := (Text.isNumeral_toString state.2).1
  rw [toList_dpmLine, List.head?_append_of_ne_nil _ hne] at h
  exact isDigit_of_mem_toString (List.mem_of_mem_head? h)

/-- There is no blank round a line. -/
theorem trim_dpmLine (active : Option ℕ) (state : ℕ × ℕ) :
    Text.trim (dpmLine active state) = dpmLine active state := by
  have htrim := @Text.trim_padded [] (dpmLine active state).toList [] nofun nofun
    (fun c hc => Text.isWhitespace_of_isDigit (head?_dpmLine hc)) (by
      rw [getLast?_dpmLine]
      rintro c ⟨⟩
      split_ifs <;> decide)
  rwa [List.nil_append, List.append_nil, String.ofList_toList] at htrim

/-- The number of a state has no colon, so the line is cut at the right one. -/
theorem colon_notMem_toString (n : ℕ) : ':' ∉ (toString n).toList := fun hmem =>
  absurd (isDigit_of_mem_toString hmem) (by decide)

/-- Digits have no case. -/
theorem toLower_of_isDigit {c : Char} (h : c.isDigit = true) : c.toLower = c := by
  rw [Char.isDigit, Bool.and_eq_true, decide_eq_true_iff, decide_eq_true_iff] at h
  have hhigh : c.toNat ≤ 57 := UInt32.le_iff_toNat_le.1 h.2
  unfold Char.toLower
  refine dif_neg fun hupper => ?_
  have hlow : 65 ≤ c.toNat := UInt32.le_iff_toNat_le.1 hupper.1
  omega

/-- The value of the active line is its clock and its unit. -/
theorem dpmValue_dpmLine {active : Option ℕ} {state : ℕ × ℕ} (h : active = some state.2) :
    dpmValue (dpmLine active state) =
      some (String.ofList ((toString state.1).toList ++ ['m', 'h', 'z'])) := by
  have hdigits : ∀ c ∈ (toString state.1).toList, c.isDigit = true := fun c hc => isDigit_of_mem_toString hc
  have hne := (Text.isNumeral_toString state.1).1
  generalize hclock : (toString state.1).toList = clock at hdigits hne
  have hhead : ∀ c ∈ (clock ++ ['M', 'h', 'z']).head?, Text.isWhitespace c = false := by
    intro c hc
    rw [List.head?_append_of_ne_nil _ hne] at hc
    exact Text.isWhitespace_of_isDigit (hdigits c (List.mem_of_mem_head? hc))
  have hsplit : (dpmLine active state).toList.splitOn ':' =
      [(toString state.2).toList, ' ' :: (clock ++ ['M', 'h', 'z', ' ', '*'])] := by
    rw [toList_dpmLine, hclock, if_pos h, List.splitOn_append_cons_of_beq _ _ (beq_self_eq_true ':'),
      List.splitOn_eq_singleton (colon_notMem_toString _), List.splitOn_eq_singleton]
    · simp
    · have hcolon := colon_notMem_toString state.1
      rw [hclock] at hcolon
      simpa using hcolon
  -- the blank before the clock, the star, and the blank before it
  have hstar : Text.trim (String.ofList (' ' :: (clock ++ ['M', 'h', 'z', ' ', '*']))) =
      String.ofList (clock ++ ['M', 'h', 'z', ' ', '*']) := by
    have htrim := @Text.trim_padded [' '] (clock ++ ['M', 'h', 'z', ' ', '*']) []
      (List.forall_mem_singleton.mpr rfl) nofun
      (by rwa [List.head?_append_of_ne_nil _ hne] at hhead ⊢) (by simp [List.getLast?_append]; decide)
    rwa [List.append_nil] at htrim
  have hend : Text.trimEndMatches (String.ofList (clock ++ ['M', 'h', 'z', ' ', '*'])) '*' =
      String.ofList (clock ++ ['M', 'h', 'z', ' ']) := by
    unfold Text.trimEndMatches
    rw [String.toList_ofList, List.reverse_append]
    show String.ofList (' ' :: 'z' :: 'h' :: 'M' :: clock.reverse).reverse = _
    simp
  have hblank : Text.trim (String.ofList (clock ++ ['M', 'h', 'z', ' '])) =
      String.ofList (clock ++ ['M', 'h', 'z']) := by
    have htrim := @Text.trim_padded [] (clock ++ ['M', 'h', 'z']) [' '] nofun
      (List.forall_mem_singleton.mpr rfl) hhead
      (by simp [List.getLast?_append]; decide)
    rwa [List.nil_append, List.append_assoc] at htrim
  have hlower : Text.asciiLowercase (String.ofList (clock ++ ['M', 'h', 'z'])) =
      String.ofList (clock ++ ['m', 'h', 'z']) := by
    have hmap : clock.map Char.toLower = clock :=
      (List.map_congr_left fun c hc => toLower_of_isDigit (hdigits c hc)).trans (List.map_id' clock)
    rw [Text.asciiLowercase, String.toList_ofList, List.map_append, hmap]
    rfl
  unfold dpmValue
  rw [hsplit]
  show some (Text.asciiLowercase (Text.trim (Text.trimEndMatches (Text.trim (String.ofList _)) '*'))) = _
  rw [hstar, hend, hblank, hlower]

/-- The clock of a state as a `u32`. -/
def clockOf (mhz : ℕ) : Option UInt32 := if mhz < UInt32.size then some (.ofNat mhz) else none

/-- What is read of the lines from the `k`-th on is the clock of the active one. -/
theorem activeDpmMhz_lines (active : Option ℕ) (clocks : List ℕ) (k : ℕ) :
    activeDpmMhz ((clocks.zipIdx k).map (dpmLine active)) =
      ((clocks.zipIdx k).find? fun state => active == some state.2).bind fun state => clockOf state.1 := by
  -- the induction is on the lines: the active one has its clock read, any other is passed over
  induction clocks generalizing k with
  | nil => rfl
  | cons mhz clocks ih =>
    rw [List.zipIdx_cons, List.map_cons, List.find?_cons]
    unfold activeDpmMhz
    dsimp only
    rw [trim_dpmLine, getLast?_dpmLine]
    by_cases hactive : active = some k
    · have hdigits : ((toString mhz).toList ++ ['m', 'h', 'z']).takeWhile Char.isDigit =
          (toString mhz).toList := by
        rw [List.takeWhile_append_of_pos fun c hc => isDigit_of_mem_toString hc]
        exact List.append_nil _
      have hparse := @Text.parseUnsigned_numeral UInt32.size _ (Text.isNumeral_toString mhz)
      rw [Text.ofDigits_toString] at hparse
      rw [if_pos hactive, if_neg (by decide), dpmValue_dpmLine hactive]
      dsimp only
      rw [String.toList_ofList, hdigits, if_neg (by simp),
        Text.parseU32, hparse, beq_iff_eq.2 hactive]
      show _ = clockOf mhz
      unfold clockOf
      split_ifs <;> rfl
    -- this line has no star
    · rw [if_neg hactive, if_pos (by decide), ih, beq_eq_false_iff_ne.2 hactive]

/-- The active line is the one with the active number. -/
theorem find?_zipIdx (active : Option ℕ) (clocks : List ℕ) (k : ℕ) :
    ((clocks.zipIdx k).find? fun state => active == some state.2).map Prod.fst =
      active.bind fun i => if k ≤ i then clocks[i - k]? else none := by
  induction clocks generalizing k with
  | nil =>
    rcases active with _ | i
    · rfl
    · show none = if k ≤ i then none else none
      split_ifs <;> rfl
  | cons mhz clocks ih =>
    rw [List.zipIdx_cons, List.find?_cons]
    by_cases hactive : active = some k
    · rw [beq_iff_eq.2 hactive, hactive]
      show some mhz = if k ≤ k then (mhz :: clocks)[k - k]? else none
      rw [if_pos le_rfl, Nat.sub_self]
      rfl
    · rw [beq_eq_false_iff_ne.2 hactive]
      show Option.map Prod.fst (List.find? _ _) = _
      rw [ih]
      rcases active with _ | i
      · rfl
      · have hne : i ≠ k := fun h => hactive (congrArg some h)
        show (if k + 1 ≤ i then clocks[i - (k + 1)]? else none) =
          if k ≤ i then (mhz :: clocks)[i - k]? else none
        by_cases hle : k ≤ i
        -- the active line is one of the rest, one place earlier there
        · obtain ⟨j, rfl⟩ := Nat.exists_eq_add_of_lt (lt_of_le_of_ne hle (Ne.symm hne))
          rw [if_pos (by omega), if_pos hle, show k + j + 1 - (k + 1) = j by omega,
            show k + j + 1 - k = j + 1 by omega]
          rfl
        · rw [if_neg (by omega), if_neg hle]

/-- Lines that begin and end with other characters than white space make up a text that does. -/
theorem ends_intercalate {lines : List String}
    (hhead : ∀ line ∈ lines, ∀ c ∈ line.toList.head?, Text.isWhitespace c = false)
    (hlast : ∀ line ∈ lines, ∀ c ∈ line.toList.getLast?, Text.isWhitespace c = false)
    (hne : ∀ line ∈ lines, line.toList ≠ []) :
    (∀ c ∈ ("\n".intercalate lines).toList.head?, Text.isWhitespace c = false) ∧
      (∀ c ∈ ("\n".intercalate lines).toList.getLast?, Text.isWhitespace c = false) ∧
      (lines ≠ [] → ("\n".intercalate lines).toList ≠ []) := by
  -- the line breaks stand between the lines, so the ends are those of the first and of the last
  induction lines with
  | nil => exact ⟨nofun, nofun, fun h => absurd rfl h⟩
  | cons line rest ih =>
    have hline := hne line List.mem_cons_self
    cases rest with
    | nil =>
      rw [String.intercalate_singleton]
      exact ⟨hhead line List.mem_cons_self, hlast line List.mem_cons_self, fun _ => hline⟩
    | cons next rest =>
      obtain ⟨-, hlast', hne'⟩ := ih (fun l hl => hhead l (List.mem_cons_of_mem _ hl))
        (fun l hl => hlast l (List.mem_cons_of_mem _ hl)) (fun l hl => hne l (List.mem_cons_of_mem _ hl))
      rw [String.intercalate_cons_cons, String.toList_append, String.toList_append]
      refine ⟨?_, ?_, fun _ h => ?_⟩
      · rw [List.append_assoc, List.head?_append_of_ne_nil _ hline]
        exact hhead line List.mem_cons_self
      · rw [List.getLast?_append_of_ne_nil _ (hne' (List.cons_ne_nil _ _))]
        exact hlast'
      · exact hline (List.append_eq_nil_iff.1 (List.append_eq_nil_iff.1 h).1).1

/-- The lines of a text made up of lines. -/
theorem lines_intercalate {texts : List String} (hne : ∀ text ∈ texts, text.toList ≠ [])
    (hbreak : ∀ text ∈ texts, '\n' ∉ text.toList ∧ '\r' ∉ text.toList) :
    lines ("\n".intercalate texts) = texts := by
  unfold lines
  rw [String.toList_intercalate]
  rcases List.eq_nil_or_concat texts with rfl | ⟨front, last, rfl⟩
  · rfl
  rw [List.concat_eq_append] at hne hbreak ⊢
  -- no line has a line break of its own to split at
  have hsplit : (['\n'].intercalate ((front ++ [last]).map String.toList)).splitOn '\n' =
      (front ++ [last]).map String.toList := by
    refine List.splitOn_intercalate '\n' ?_ (by simp)
    rintro cs hcs
    obtain ⟨text, htext, rfl⟩ := List.mem_map.1 hcs
    exact (hbreak text htext).1
  have hlast := hne last (List.mem_append_right _ List.mem_cons_self)
  -- nor does one end in the carriage return that `lines` takes off
  have hkeep : (front.map String.toList).map (fun piece =>
      if piece.getLast? = some '\r' then piece.dropLast else piece) = front.map String.toList := by
    rw [List.map_map]
    refine List.map_congr_left fun text htext => if_neg fun hreturn => ?_
    exact (hbreak text (List.mem_append_left _ htext)).2 (List.mem_of_getLast? hreturn)
  have hpieces : (front ++ [last]).map String.toList = front.map String.toList ++ [last.toList] := by
    rw [List.map_append]
    rfl
  -- the last piece is a line unless it is empty
  change List.map String.ofList (_ ++ if _ = [] then [] else [_]) = _
  rw [show "\n".toList = ['\n'] from rfl, hsplit, hpieces, List.dropLast_concat, List.getLast?_concat,
    Option.getD_some, hkeep, if_neg hlast, ← hpieces, List.map_map]
  exact (List.map_congr_left fun text _ => String.ofList_toList).trans (List.map_id' _)

/-- What is trimmed off a file is its line break. -/
theorem trim_newline {text : String} (hhead : ∀ c ∈ text.toList.head?, Text.isWhitespace c = false)
    (hlast : ∀ c ∈ text.toList.getLast?, Text.isWhitespace c = false) : Text.trim (text ++ "\n") = text := by
  have hpadded := @Text.trim_padded [] text.toList ['\n'] nofun (List.forall_mem_singleton.mpr rfl) hhead hlast
  have hnewline : text ++ "\n" = String.ofList ([] ++ (text.toList ++ ['\n'])) := by
    apply String.toList_inj.1
    simp only [String.toList_append, List.nil_append, String.toList_ofList]
    rfl
  rw [hnewline, hpadded, String.ofList_toList]

/-- **The active clock is read from the table.** In a table of states as the driver writes it, the clock
read is that of the starred state, and none where no state is. -/
theorem readActiveDpmMhz_dpmTable (fs : Sysfs) (path : Path) (clocks : List ℕ) (active : Option ℕ) :
    readActiveDpmMhz (fs.write path (dpmTable clocks active)) path =
      (active.bind (clocks[·]?)).bind clockOf := by
  have hmem : ∀ line ∈ clocks.zipIdx.map (dpmLine active), ∃ state, line = dpmLine active state := by
    intro line hline
    obtain ⟨state, -, rfl⟩ := List.mem_map.1 hline
    exact ⟨state, rfl⟩
  have hne : ∀ line ∈ clocks.zipIdx.map (dpmLine active), line.toList ≠ [] := by
    intro line hline hnil
    obtain ⟨state, rfl⟩ := hmem line hline
    have hlast := getLast?_dpmLine active state
    rw [hnil] at hlast
    cases hlast
  have hbreak : ∀ line ∈ clocks.zipIdx.map (dpmLine active), '\n' ∉ line.toList ∧ '\r' ∉ line.toList := by
    intro line hline
    obtain ⟨state, rfl⟩ := hmem line hline
    exact ⟨fun h => (mem_dpmLine h).elim (by decide) (by decide),
      fun h => (mem_dpmLine h).elim (by decide) (by decide)⟩
  obtain ⟨hhead, hlast, -⟩ := @ends_intercalate (clocks.zipIdx.map (dpmLine active))
    (fun line hline c hc => by
      obtain ⟨state, rfl⟩ := hmem line hline
      exact Text.isWhitespace_of_isDigit (head?_dpmLine hc))
    (fun line hline c hc => by
      obtain ⟨state, rfl⟩ := hmem line hline
      rw [getLast?_dpmLine] at hc
      rw [← Option.some.inj hc]
      split_ifs <;> decide) hne
  -- the file ends in a line break, which is all that is trimmed
  have htrim : Text.trim (dpmTable clocks active) =
      "\n".intercalate (clocks.zipIdx.map (dpmLine active)) := trim_newline hhead hlast
  have hread : (fs.write path (dpmTable clocks active)).readTrimmed path =
      some ("\n".intercalate (clocks.zipIdx.map (dpmLine active))) := by
    unfold Sysfs.readTrimmed Sysfs.write
    dsimp only
    rw [if_pos rfl, Option.map_some, htrim]
  have hfind := find?_zipIdx active clocks 0
  simp only [Nat.zero_le, if_true, Nat.sub_zero] at hfind
  unfold readActiveDpmMhz
  rw [hread, Option.bind_some, lines_intercalate hne hbreak, activeDpmMhz_lines, ← hfind, Option.bind_map]
  rfl

end AmdEngine

end Muxtop.Core
