import PluggableHost.Config.Document
import PluggableHost.Proofs.Config.Value
import PluggableHost.Proofs.Toml.Distinct

namespace PluggableHost.Config

open PluggableHost.Toml

/-!
# Settings are decoded key by key

What a document says of a setting stands under the setting's key.  Where it says
nothing, the setting keeps its default, and nothing else in the document counts.
-/

/-! ## Reading one item -/

/-- An item that is a truth value is read as it. -/
theorem readFlag_of_value
    {item : Item}
    {value : Bool}
    (meant : item.value? = some (.flag value)) :
    readFlag item = .ok value := by
  cases item <;> simp_all [Item.value?, readFlag]

/-- An item that is a text is read as it. -/
theorem readText_of_text
    {item : Item}
    {value : String}
    (meant : item.text? = some value) :
    readText item = .ok value := by
  cases item <;> simp_all [Item.text?, readText]

/-- An item whose value is a text is read as it. -/
theorem readText_of_value
    {item : Item}
    {value : String}
    (meant : item.value? = some (.text value)) :
    readText item = .ok value := by
  cases item <;> simp_all [Item.value?, readText]

/-- Items that are texts are read as texts, one by one. -/
theorem mapM_readText
    {items : List Item}
    {values : List String}
    (meant : items.mapM Item.text? = some values) :
    items.mapM readText = .ok values := by
  induction items generalizing values with
  | nil =>
      cases meant
      rfl
  | cons item rest inductionHypothesis =>
      rw [List.mapM_cons] at meant
      obtain ⟨first, here, meant⟩ := Option.bind_eq_some_iff.mp meant
      obtain ⟨others, onwards, meant⟩ := Option.bind_eq_some_iff.mp meant
      cases meant
      rw [List.mapM_cons, readText_of_text here,
        inductionHypothesis onwards]
      rfl

/-- An item that is a list of texts is read as it. -/
theorem readTexts_of_value
    {item : Item}
    {values : List String}
    (meant : item.value? = some (.texts values)) :
    readTexts item = .ok values := by
  cases item with
  | array span items =>
      obtain ⟨texts, found, same⟩ := Option.map_eq_some_iff.mp meant
      cases same
      exact mapM_readText found
  | tables elements =>
      obtain ⟨texts, found, same⟩ := Option.map_eq_some_iff.mp meant
      cases same
      exact mapM_readText found
  | _ =>
      cases meant

/-- A number of a kind without a sign is a natural one, in the range of the kind. -/
theorem exists_natural
    {bits : Nat}
    {value : Value}
    (admitted : (Kind.number bits).Admits value) :
    ∃ natural : Nat, value = .number natural ∧ natural < 2 ^ bits := by
  obtain _ | _ | _ | ⟨sign, small⟩ := admitted
  obtain ⟨natural, rfl⟩ := Int.eq_ofNat_of_zero_le sign
  exact ⟨natural, rfl, by exact_mod_cast small⟩

/-- A number that is small enough is read as it is. -/
theorem readNatural_of_value
    {item : Item}
    {natural bits : Nat}
    (expected : String)
    (meant : item.value? = some (.number natural))
    (small : natural < 2 ^ bits) :
    readNatural (Nat.pow 2 bits) expected item = .ok natural := by
  have below : (natural : Int) < 2 ^ bits := by
    exact_mod_cast small
  cases item with
  | integer span written =>
      cases meant
      exact if_pos (by simpa using below)
  | array span items =>
      simp [Item.value?] at meant
  | tables elements =>
      simp [Item.value?] at meant
  | _ =>
      cases meant

/-- A setting is changed to a value, and no other setting is. -/
structure Changes
    (change : Settings → Settings)
    (setting : Setting)
    (value : Value) : Prop where
  own :
    ∀ settings,
      (change settings).value? setting = some value
  others :
    ∀ settings other,
      other ≠ setting →
        (change settings).value? other = settings.value? other

/-- A value that fits into sixteen bits is read as such a number. -/
theorem exists_word16
    {item : Item}
    {value : Value}
    (meant : item.value? = some value)
    (admitted : (Kind.number 16).Admits value) :
    ∃ word,
      readWord16 item = .ok word ∧ value = .number word.toNat := by
  obtain ⟨number, rfl, small⟩ := exists_natural admitted
  refine ⟨number.toUInt16,
    congrArg _ (readNatural_of_value "u16" meant small), ?_⟩
  rw [Nat.toUInt16_eq, UInt16.toNat_ofNat_of_lt' small]

/-- A value that fits into thirty-two bits is read as such a number. -/
theorem exists_word32
    {item : Item}
    {value : Value}
    (meant : item.value? = some value)
    (admitted : (Kind.number 32).Admits value) :
    ∃ word,
      readWord32 item = .ok word ∧ value = .number word.toNat := by
  obtain ⟨number, rfl, small⟩ := exists_natural admitted
  refine ⟨number.toUInt32,
    congrArg _ (readNatural_of_value "u32" meant small), ?_⟩
  rw [Nat.toUInt32_eq, UInt32.toNat_ofNat_of_lt' small]

/-- A value that fits into sixty-four bits is read as such a number. -/
theorem exists_word64
    {item : Item}
    {value : Value}
    (expected : String)
    (meant : item.value? = some value)
    (admitted : (Kind.number 64).Admits value) :
    ∃ word,
      readWord64 expected item = .ok word ∧ value = .number word.toNat := by
  obtain ⟨number, rfl, small⟩ := exists_natural admitted
  refine ⟨number.toUInt64,
    congrArg _ (readNatural_of_value expected meant small), ?_⟩
  rw [Nat.toUInt64_eq, UInt64.toNat_ofNat_of_lt' small]

/-- A reader that succeeds leads to the change that it is asked for. -/
theorem exists_change
    {α : Type}
    {reading : Except Fault α}
    {change : α → Settings → Settings}
    {setting : Setting}
    {found : α}
    {value : Value}
    (read : reading = .ok found)
    (changes : Changes (change found) setting value) :
    ∃ made,
      (do
        let value ← reading
        return change value) = Except.ok made ∧
      Changes made setting value := by
  subst read
  exact ⟨_, rfl, changes⟩

/-- An item that is of the kind of a setting is read, and changes this setting only. -/
theorem exists_read
    {setting : Setting}
    {item : Item}
    {value : Value}
    (meant : item.value? = some value)
    (admitted : setting.kind.Admits value) :
    ∃ change,
      setting.read item = .ok change ∧ Changes change setting value := by
  cases setting
  case' enableHttp | enableHttps | enableRegistry | enableTwoWayTls
    | alwaysSetKeepAlive | recordRequestStartTime =>
    obtain ⟨flag⟩ := admitted
    refine exists_change (readFlag_of_value meant) ⟨fun _ => rfl, ?_⟩
  case' httpPort | httpsPort =>
    obtain ⟨word, read, rfl⟩ := exists_word16 meant admitted
    refine exists_change read ⟨fun _ => rfl, ?_⟩
  case' backlog | bufferSize =>
    obtain ⟨word, read, rfl⟩ := exists_word32 meant admitted
    refine exists_change read ⟨fun _ => rfl, ?_⟩
  case' ioThreads | workerThreads | shutdownGraceMs =>
    obtain ⟨word, read, rfl⟩ := exists_word64 _ meant admitted
    refine exists_change read ⟨fun _ => rfl, ?_⟩
  case' materialDirs =>
    obtain ⟨texts⟩ := admitted
    refine exists_change (readTexts_of_value meant) ⟨fun _ => rfl, ?_⟩
  case' ip | keystoreName | keystorePass | truststoreName | truststorePass
    | keyPass | serviceId | tlsProtocol | serverString | logLevel
    | logFormat | metricsAddress =>
    obtain ⟨text⟩ := admitted
    refine exists_change (readText_of_value meant) ⟨fun _ => rfl, ?_⟩
  all_goals
    intro settings other different
    cases other <;>
      first
        | rfl
        | exact absurd rfl different

/-! ## Reading a document -/

/-- What a document says under the keys of settings is of the right kind and in range. -/
def Fits (fields : Fields) : Prop :=
  ∀ (setting : Setting) item,
    fields.find? setting.key = some item →
      ∃ value, item.value? = some value ∧ setting.kind.Admits value

/-- Settings are what fields say under their keys, or else what they were at the start. -/
def ReadsOff
    (fields : Fields)
    (start read : Settings) : Prop :=
  ∀ setting,
    read.value? setting =
      (fields.value? setting.key).or (start.value? setting)

/-- What fits still fits without its first entry. -/
theorem Fits.tail
    {entry : Key × Item}
    {rest : Fields}
    (distinct : Fields.Distinct (entry :: rest))
    (fits : Fits (entry :: rest)) :
    Fits rest := by
  intro setting item found
  obtain ⟨member, inRest, same, rfl⟩ := Fields.mem_of_find? found
  refine fits setting member.2 ?_
  rw [← same]
  exact distinct.find?_of_mem (List.mem_cons_of_mem entry inRest)

/-- The first entry of a name says what its value is. -/
theorem value?_cons
    (entry : Key × Item)
    (rest : Fields)
    (name : String) :
    Fields.value? (entry :: rest) name =
      if entry.1.name = name then entry.2.value?
      else rest.value? name := by
  unfold Fields.value? Fields.find?
  by_cases here : entry.1.name = name
  · simp [here]
  · simp [here]

/-- Fields that fit are all read. -/
theorem exists_readsOff
    {fields : Fields}
    (distinct : fields.Distinct)
    (fits : Fits fields)
    (start : Settings) :
    ∃ read,
      fields.foldlM Settings.enter start = .ok read ∧
        ReadsOff fields start read := by
  induction fields generalizing start with
  | nil =>
      exact ⟨start, rfl, fun _ => rfl⟩
  | cons entry rest inductionHypothesis =>
      obtain ⟨fresh, others⟩ := List.nodup_cons.mp distinct
      have restFits := fits.tail distinct
      cases known : Setting.ofKey? entry.1.name with
      | none =>
          obtain ⟨read, folded, keyed⟩ :=
            inductionHypothesis others restFits start
          have entered : start.enter entry = .ok start := by
            simp [Settings.enter, known]
          refine ⟨read, ?_, fun setting => ?_⟩
          · rw [List.foldlM_cons, entered]
            exact folded
          · have apart : entry.1.name ≠ setting.key := by
              intro same
              rw [Setting.ofKey?_eq_some_iff.mpr same] at known
              cases known
            rw [keyed, value?_cons, if_neg apart]
      | some named =>
          have name := Setting.ofKey?_eq_some_iff.mp known
          obtain ⟨value, meant, admitted⟩ :=
            fits named entry.2 (by simp [Fields.find?, name])
          obtain ⟨change, changed, changes⟩ := exists_read meant admitted
          obtain ⟨read, folded, keyed⟩ :=
            inductionHypothesis others restFits (change start)
          have entered : start.enter entry = .ok (change start) := by
            simp [Settings.enter, known, changed]
          refine ⟨read, ?_, fun setting => ?_⟩
          · rw [List.foldlM_cons, entered]
            exact folded
          · rw [keyed, value?_cons]
            by_cases same : setting = named
            · subst same
              have absent : Fields.value? rest setting.key = none := by
                unfold Fields.value?
                rw [Fields.find?_eq_none_iff.mpr (name ▸ fresh)]
                rfl
              rw [absent, if_pos name, meant, changes.own]
              rfl
            · have apart : entry.1.name ≠ setting.key := fun met =>
                same (Setting.key_injective (met.symm.trans name))
              rw [if_neg apart, changes.others start setting same]

/-! ## A document and a machine -/

namespace Settings

/-- The settings on a machine, which knows how many threads are used unless told. -/
def on
    (threads : UInt64)
    (settings : Settings) : Settings :=
  { settings with ioThreads := some (settings.ioThreads.getD threads) }

/-- What a configuration comes to on a machine. -/
def parseOn
    (threads : UInt64)
    (text : String) : Except LoadError Settings :=
  (parse text).map (on threads)

/-- On a machine only the number of threads may get a value. -/
theorem value?_on
    (threads : UInt64)
    (settings : Settings)
    (setting : Setting) :
    (settings.on threads).value? setting =
      (settings.value? setting).or
        (if setting = .ioThreads then some (.number threads.toNat)
        else none) := by
  by_cases chosen : setting = .ioThreads
  · subst chosen
    rw [if_pos rfl]
    unfold on value?
    cases settings.ioThreads <;>
      rfl
  · rw [if_neg chosen, Option.or_none]
    cases setting <;>
      first
        | rfl
        | exact absurd rfl chosen

/-- Being on a machine with threads brings no problems. -/
theorem problems_on
    {threads : UInt64}
    (positive : threads ≠ 0)
    (settings : Settings) :
    (settings.on threads).problems = settings.problems := by
  have same :
      Capacity.isZero (settings.on threads) =
        Capacity.isZero settings := by
    funext capacity
    cases capacity with
    | ioThreads =>
        cases chosen : settings.ioThreads <;>
          simp [Capacity.isZero, on, chosen, positive]
    | _ =>
        rfl
  unfold problems
  rw [same]
  rfl

/-- Settings may be checked before or after they are put on a machine. -/
theorem checked_on
    {threads : UInt64}
    (positive : threads ≠ 0)
    (settings : Settings) :
    settings.checked.map (on threads) = (settings.on threads).checked := by
  unfold checked
  rw [problems_on positive]
  split <;>
    rfl

end Settings

/-! ## What a document says -/

/-- What fields say under the keys of settings, in their order. -/
def known (fields : Fields) : List (String × Option Value) :=
  (fields.filter fun entry => (Setting.ofKey? entry.1.name).isSome).map
    fun entry => (entry.1.name, entry.2.value?)

/-- What is said under the key of a setting, if anything is. -/
def said?
    (fields : Fields)
    (setting : Setting) : Option (Option Value) :=
  (fields.find? setting.key).map Item.value?

/-- What fields say about a setting is the value of its key. -/
theorem value?_key
    (fields : Fields)
    (setting : Setting) :
    fields.value? setting.key = (said? fields setting).join := by
  unfold Fields.value? said?
  cases fields.find? setting.key <;>
    rfl

/-- Fields fit if all that they say about settings is admitted. -/
theorem fits_iff
    {fields : Fields} :
    Fits fields ↔
      ∀ setting value?,
        said? fields setting = some value? →
          ∃ value, value? = some value ∧ setting.kind.Admits value := by
  constructor
  · intro fits setting value? said
    obtain ⟨item, found, rfl⟩ := Option.map_eq_some_iff.mp said
    exact fits setting item found
  · intro fits setting item found
    exact fits setting item.value? (by rw [said?, found]; rfl)

/-- What is said under a key is among what is known, and the only thing said there. -/
theorem said?_eq_some_iff
    {fields : Fields}
    (distinct : fields.Distinct)
    {setting : Setting}
    {value? : Option Value} :
    said? fields setting = some value? ↔
      (setting.key, value?) ∈ known fields := by
  unfold said? known
  simp only [Option.map_eq_some_iff, List.mem_map, List.mem_filter]
  constructor
  · rintro ⟨item, found, rfl⟩
    obtain ⟨entry, member, same, rfl⟩ := Fields.mem_of_find? found
    refine ⟨entry, ⟨member, ?_⟩, by rw [same]⟩
    rw [Setting.ofKey?_eq_some_iff.mpr same]
    rfl
  · rintro ⟨entry, ⟨member, -⟩, same⟩
    obtain ⟨name, rfl⟩ := Prod.mk.inj same
    exact ⟨entry.2, name ▸ distinct.find?_of_mem member, rfl⟩

/-- Documents of which the same is known say the same of every setting. -/
theorem said?_congr
    {first second : Fields}
    (firstDistinct : first.Distinct)
    (secondDistinct : second.Distinct)
    (same : (known first).Perm (known second))
    (setting : Setting) :
    said? first setting = said? second setting :=
  Option.ext fun value? => by
    rw [said?_eq_some_iff firstDistinct, said?_eq_some_iff secondDistinct,
      same.mem_iff]

/-- What one more entry says is said under its key only. -/
theorem said?_of_more
    {fields more : Fields}
    (distinct : fields.Distinct)
    (moreDistinct : more.Distinct)
    {setting : Setting}
    {value : Value}
    (unset : fields.find? setting.key = none)
    (same : (known more).Perm ((setting.key, some value) :: known fields))
    (other : Setting) :
    said? more other =
      if other = setting then some (some value) else said? fields other := by
  refine Option.ext fun value? => ?_
  rw [said?_eq_some_iff moreDistinct, same.mem_iff, List.mem_cons]
  by_cases here : other = setting
  · subst here
    have nothing : (other.key, value?) ∉ known fields := by
      rw [← said?_eq_some_iff distinct, said?, unset]
      simp
    simp [nothing, eq_comm]
  · have apart : other.key ≠ setting.key := fun met =>
      here (Setting.key_injective met)
    rw [if_neg here, said?_eq_some_iff distinct]
    simp [apart]

/-! ## Decoding -/

/-- What a document comes to on a machine, told key by key. -/
structure DecodesKeyWise
    (threads : UInt64)
    (text : String)
    (fields : Fields) : Prop where
  /-- Every setting is what stands under its key, or else its default. -/
  decoded :
    ∃ settings,
      ReadsOff fields (({} : Settings).on threads) settings
  /-- No other settings are, and what they come to is left to the checks. -/
  checked :
    ∀ settings,
      ReadsOff fields (({} : Settings).on threads) settings →
        Settings.parseOn threads text = settings.checked
  /-- What was accepted once is accepted again. -/
  accepted :
    ∀ settings,
      Settings.parseOn threads text = .ok settings →
        settings.isValid = true ∧ settings.checked = .ok settings
  /-- The order of the entries does not count, nor do entries under other keys. -/
  unordered :
    ∀ other otherFields,
      readDocument other = some otherFields →
      (known otherFields).Perm (known fields) →
        Settings.parseOn threads other = Settings.parseOn threads text
  /-- A default that is written out changes nothing. -/
  explicit :
    ∀ setting value other otherFields,
      (({} : Settings).on threads).value? setting = some value →
      fields.find? setting.key = none →
      readDocument other = some otherFields →
      (known otherFields).Perm
        ((setting.key, some value) :: known fields) →
        Settings.parseOn threads other = Settings.parseOn threads text
  /-- A value that is changed under one key changes no other setting. -/
  single :
    ∀ setting other otherFields,
      readDocument other = some otherFields →
      Fits otherFields →
      (∀ another : Setting,
        another ≠ setting →
          otherFields.value? another.key = fields.value? another.key) →
        ∃ before after : Settings,
          Settings.parseOn threads text = before.checked ∧
          Settings.parseOn threads other = after.checked ∧
          ∀ another,
            another ≠ setting →
              after.value? another = before.value? another

/-- A document whose fields fit is decoded to what it says, and checked. -/
theorem exists_parseOn
    {threads : UInt64}
    {text : String}
    {fields : Fields}
    (positive : threads ≠ 0)
    (found : readDocument text = some fields)
    (fits : Fits fields) :
    ∃ settings,
      ReadsOff fields (({} : Settings).on threads) settings ∧
        Settings.parseOn threads text = settings.checked := by
  obtain ⟨read, folded, keyed⟩ :=
    exists_readsOff (distinct_of_readDocument found) fits {}
  refine ⟨read.on threads, fun setting => ?_, ?_⟩
  · rw [Settings.value?_on, Settings.value?_on, keyed, Option.or_assoc]
  · have decoded : Settings.ofFields fields = .ok read := folded
    unfold Settings.parseOn Settings.parse
    rw [found]
    dsimp only
    rw [decoded]
    exact Settings.checked_on positive read

/-- Only one choice of settings is what fields say. -/
theorem ReadsOff.unique
    {fields : Fields}
    {start first second : Settings}
    (firstRead : ReadsOff fields start first)
    (secondRead : ReadsOff fields start second) :
    first = second :=
  Settings.ext_value? fun setting =>
    (firstRead setting).trans (secondRead setting).symm

/-- Documents that mean the same by every key come to the same. -/
theorem parseOn_congr
    {threads : UInt64}
    {first second : String}
    {firstFields secondFields : Fields}
    (positive : threads ≠ 0)
    (firstFound : readDocument first = some firstFields)
    (secondFound : readDocument second = some secondFields)
    (firstFits : Fits firstFields)
    (secondFits : Fits secondFields)
    (same :
      ∀ setting : Setting,
        (firstFields.value? setting.key).or
            ((({} : Settings).on threads).value? setting) =
          (secondFields.value? setting.key).or
            ((({} : Settings).on threads).value? setting)) :
    Settings.parseOn threads first = Settings.parseOn threads second := by
  obtain ⟨settings, firstRead, firstParsed⟩ :=
    exists_parseOn positive firstFound firstFits
  obtain ⟨others, secondRead, secondParsed⟩ :=
    exists_parseOn positive secondFound secondFits
  have equal : settings = others :=
    Settings.ext_value? fun setting => by
      rw [firstRead setting, same setting, secondRead setting]
  rw [firstParsed, secondParsed, equal]

/-- A configuration is decoded key by key. -/
theorem decodesKeyWise
    {threads : UInt64}
    {text : String}
    {fields : Fields}
    (positive : threads ≠ 0)
    (found : readDocument text = some fields)
    (fits : Fits fields) :
    DecodesKeyWise threads text fields := by
  have distinct := distinct_of_readDocument found
  obtain ⟨settings, read, parsed⟩ := exists_parseOn positive found fits
  constructor
  case decoded =>
    exact ⟨settings, read⟩
  case checked =>
    intro others otherRead
    rw [otherRead.unique read]
    exact parsed
  case accepted =>
    intro accepted returned
    rw [parsed] at returned
    unfold Settings.checked at returned
    split at returned
    · next valid =>
        cases returned
        exact ⟨valid, if_pos valid⟩
    · cases returned
  case unordered =>
    intro other otherFields otherFound same
    have agree :=
      said?_congr (distinct_of_readDocument otherFound) distinct same
    have otherFits : Fits otherFields :=
      fits_iff.mpr fun setting value? said =>
        fits_iff.mp fits setting value? (agree setting ▸ said)
    refine
      parseOn_congr positive otherFound found otherFits fits
        fun setting => ?_
    rw [value?_key, value?_key, agree]
  case explicit =>
    intro setting value other otherFields default unset otherFound same
    have agree :=
      said?_of_more distinct (distinct_of_readDocument otherFound) unset
        same
    have otherFits : Fits otherFields := by
      refine fits_iff.mpr fun another value? said => ?_
      rw [agree] at said
      split at said
      · next here =>
          cases said
          subst here
          exact ⟨value, rfl, Settings.admits_of_value? default⟩
      · exact fits_iff.mp fits another value? said
    refine
      parseOn_congr positive otherFound found otherFits fits
        fun another => ?_
    rw [value?_key, value?_key, agree]
    split
    · next here =>
        subst here
        rw [said?, unset, default]
        rfl
    · rfl
  case single =>
    intro setting other otherFields otherFound otherFits same
    obtain ⟨after, otherRead, otherParsed⟩ :=
      exists_parseOn positive otherFound otherFits
    refine ⟨settings, after, parsed, otherParsed, ?_⟩
    intro another apart
    rw [otherRead another, read another, same another apart]

/-- A port that is set, next to a key that only looks like one, on a machine with four cores. -/
theorem decodesKeyWise_port :
    (8 : UInt64) ≠ 0 ∧
      ∃ fields,
        readDocument "httpPort = 81\nhttp_port = 7" = some fields ∧
        Fits fields ∧
        DecodesKeyWise 8 "httpPort = 81\nhttp_port = 7" fields := by
  have positive : (8 : UInt64) ≠ 0 := by decide
  have found :
      readDocument "httpPort = 81\nhttp_port = 7" =
        some
          [(⟨"httpPort", ⟨27, 19⟩⟩, .integer ⟨16, 14⟩ 81),
            (⟨"http_port", ⟨13, 4⟩⟩, .integer ⟨1, 0⟩ 7)] := by
    rfl
  have fits :
      Fits
        [(⟨"httpPort", ⟨27, 19⟩⟩, .integer ⟨16, 14⟩ 81),
          (⟨"http_port", ⟨13, 4⟩⟩, .integer ⟨1, 0⟩ 7)] := by
    intro setting item here
    cases setting with
    | httpPort =>
        cases here
        exact ⟨_, rfl, .number (by decide) (by decide)⟩
    | _ =>
        cases here
  exact ⟨positive, _, found, fits, decodesKeyWise positive found fits⟩

end PluggableHost.Config
