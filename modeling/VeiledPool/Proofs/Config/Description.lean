import VeiledPool.Config.Reader
import VeiledPool.Proofs.Curve.Rate
import VeiledPool.Proofs.Fault.Legible

/-! # What a document describes

A document describes a configuration if its parts are what they should be: names
that are not empty, assets of one of two forms, a rate whose terms may be left
out, a seed that can be written out. The relations here say so part by part and know
nothing of the order in which a reader looks at the parts. A reader answers with a
configuration exactly if the document describes it.
-/

namespace VeiledPool

namespace Document

/-- The document is a text with these code points. -/
def Spells (document : Document) (name : Spelling) : Prop :=
  document = .scalar (.text name)

/-- The code hash of a token: any text, kept as it is, and an empty one if none is given. -/
inductive GivesHash : Option Document → Scalar → Prop where
  | absent : GivesHash none (.text "")
  | given (hash : Spelling) : GivesHash (some (.scalar (.text hash))) (.text hash)

/-- A token is given by its name, or by its address along with a code hash. -/
inductive DescribesToken : Document → AssetInfo → Prop where
  | name {value : Document} {name : Spelling} (spelled : value.Spells name) (named : name ≠ "") :
    DescribesToken value ⟨⟨.token, name⟩, .text "", named⟩
  | contract {entries : List (Scalar × Document)} {address : Document} {name : Spelling}
    {codeHash : Scalar} (addressed : field? entries "contract_addr" = some address)
    (spelled : address.Spells name) (named : name ≠ "")
    (hashed : GivesHash (field? entries "token_code_hash") codeHash) :
    DescribesToken (.mapping entries) ⟨⟨.token, name⟩, codeHash, named⟩

/-- An asset is a mapping with one key, which says what it is. -/
inductive DescribesAsset : Document → AssetInfo → Prop where
  | native {value : Document} {name : Spelling} (spelled : value.Spells name)
    (named : name ≠ "") :
    DescribesAsset (.mapping [(.text "native", value)]) ⟨⟨.native, name⟩, .text "", named⟩
  | token {value : Document} {info : AssetInfo} (described : value.DescribesToken info) :
    DescribesAsset (.mapping [(.text "token", value)]) info

/-- A setting is an integer, with a standard value where none is given. -/
inductive Sets (standard : Int) : Option Document → Int → Prop where
  | absent : Sets standard none standard
  | given (value : Int) : Sets standard (some (.scalar (.int value))) value

/-- The terms of a rate, three in a thousand unless others are given. -/
inductive GivesRate : Option Document → Int → Int → Prop where
  | absent : GivesRate none 3 1000
  | given {entries : List (Scalar × Document)} {nom denom : Int}
    (nomGiven : Sets 3 (field? entries "nom") nom)
    (denomGiven : Sets 1000 (field? entries "denom") denom) :
    GivesRate (some (.mapping entries)) nom denom

/-- The seed that is given. A null is none, a text is taken as it is and anything else as it is
    written. -/
def givenSeed : Option Document → Option Spelling
  | none => none
  | some (.scalar .null) => none
  | some seed => some seed.plain

/-- A seed, if any, shows no integer that cannot be written out. -/
def Writable (given : Option Document) : Prop :=
  ∀ seed, given = some seed → ¬ Illegible seed.figures

/-- The entries of a document say all that a configuration holds. -/
structure Describes (entries : List (Scalar × Document)) (config : Config) : Prop where
  assets : ∃ first second, field? entries "assets" = some (.list [first, second]) ∧
    first.DescribesAsset config.first ∧ second.DescribesAsset config.second
  token : ∃ value, field? entries "liquidity_token" = some value ∧ value.Spells config.token
  rate : GivesRate (field? entries "commission_rate") config.rate.nom config.rate.denom
  writable : Writable (field? entries "entropy_seed")
  seed : config.seed = givenSeed (field? entries "entropy_seed")

variable {subject : String} {document : Document} {value : Scalar} {info : AssetInfo}
  {name : { name : Spelling // name ≠ "" }}

theorem givesHash_none_iff : GivesHash none value ↔ value = .text "" := by
  constructor
  · intro gives
    cases gives
    rfl
  · rintro rfl
    exact .absent

theorem givesHash_text_iff {hash : Spelling} :
    GivesHash (some (.scalar (.text hash))) value ↔ value = .text hash := by
  constructor
  · intro gives
    cases gives
    rfl
  · rintro rfl
    exact .given hash

theorem describesToken_text_iff {address : Spelling} :
    DescribesToken (.scalar (.text address)) info ↔
      info.codeHash = .text "" ∧ info.id.kind = .token ∧
        Spells (.scalar (.text address)) info.id.name := by
  constructor
  · intro described
    cases described with
    | name spelled named => exact ⟨rfl, rfl, spelled⟩
  · obtain ⟨⟨kind, name⟩, codeHash, named⟩ := info
    rintro ⟨rfl, rfl, spelled⟩
    exact .name spelled named

theorem describesToken_mapping_iff {entries : List (Scalar × Document)} :
    DescribesToken (.mapping entries) info ↔
      GivesHash (field? entries "token_code_hash") info.codeHash ∧ info.id.kind = .token ∧
      ∃ address, field? entries "contract_addr" = some address ∧ address.Spells info.id.name := by
  constructor
  · intro described
    cases described with
    | name spelled => cases spelled
    | contract addressed spelled named hashed => exact ⟨hashed, rfl, _, addressed, spelled⟩
  · obtain ⟨⟨kind, name⟩, codeHash, named⟩ := info
    rintro ⟨hashed, rfl, address, addressed, spelled⟩
    exact .contract addressed spelled named hashed

theorem scalar_name_eq_ok_iff : value.name subject = .ok name ↔ value = .text name.1 := by
  obtain ⟨name, named⟩ := name
  cases value with
  | text text =>
    by_cases empty : text = ""
    · simp [Scalar.name, empty, named.symm]
    · simp [Scalar.name, empty]
  | _ => simp [Scalar.name]

theorem name_eq_ok_iff : document.name subject = .ok name ↔ document.Spells name.1 := by
  cases document with
  | scalar value =>
    rw [Spells, Document.scalar.injEq]
    exact scalar_name_eq_ok_iff
  | list items =>
    constructor <;> intro impossible <;> cases impossible
  | mapping entries =>
    constructor <;> intro impossible <;> cases impossible

theorem nameScalar_eq_ok_iff :
    document.nameScalar subject = .ok value ↔
      ∃ name : Spelling, name ≠ "" ∧ value = .text name ∧ document.Spells name := by
  cases document with
  | scalar given =>
    simp only [nameScalar, bind_eq_ok, pure_eq_ok, scalar_name_eq_ok_iff, Spells,
      Document.scalar.injEq]
    constructor
    · rintro ⟨⟨name, named⟩, spelled, rfl⟩
      exact ⟨name, named, spelled, spelled⟩
    · rintro ⟨name, named, rfl, spelled⟩
      exact ⟨⟨name, named⟩, spelled, spelled⟩
  | list items => simp [nameScalar, Spells]
  | mapping entries => simp [nameScalar, Spells]

theorem setting_eq_ok_iff {setting : Nat} :
    document.setting subject = .ok setting ↔ document = .scalar (.int setting) := by
  constructor
  · intro read
    cases document with
    | scalar value =>
      obtain ⟨number, integer, checked⟩ := bind_eq_ok.1 read
      cases value <;> cases integer
      split at checked
      · cases checked
      · cases checked
        simp only [Document.scalar.injEq, Scalar.int.injEq]
        omega
    | list items => cases read
    | mapping entries => cases read
  · rintro rfl
    have positive : ¬ (setting : Int) < 0 := by omega
    simp only [Document.setting, Scalar.integer, ok_bind, if_neg positive, Int.toNat_natCast]

end Document

namespace Config

open Document

variable {subject : String} {document : Document} {given : Option Document}
  {entries : List (Scalar × Document)} {info first second : AssetInfo}

theorem settingOr_eq_ok_iff {standard setting : Nat} :
    settingOr standard subject given = .ok setting ↔ Sets standard given setting := by
  cases given with
  | none =>
    constructor
    · intro read
      cases read
      exact .absent
    · -- The relation is over integers, the setting that was read is a natural number.
      generalize same : (setting : Int) = value
      intro sets
      cases sets
      rw [Int.ofNat_inj.1 same]
      rfl
  | some value =>
    rw [settingOr, setting_eq_ok_iff]
    constructor
    · rintro rfl
      exact .given _
    · intro sets
      cases sets
      rfl

theorem named_eq_ok_iff {kind : AssetKind} {codeHash : Scalar} :
    (document.name subject >>= fun ⟨name, named⟩ =>
      pure (⟨⟨kind, name⟩, codeHash, named⟩ : AssetInfo)) = .ok info ↔
      info.codeHash = codeHash ∧ info.id.kind = kind ∧ document.Spells info.id.name := by
  constructor
  · intro read
    obtain ⟨⟨name, named⟩, nameRead, read⟩ := bind_eq_ok.1 read
    cases pure_eq_ok.1 read
    exact ⟨rfl, rfl, name_eq_ok_iff.1 nameRead⟩
  · obtain ⟨⟨kind, name⟩, codeHash, named⟩ := info
    rintro ⟨rfl, rfl, spelled⟩
    have nameRead : document.name subject = .ok ⟨name, named⟩ := name_eq_ok_iff.2 spelled
    rw [nameRead]
    rfl

/-- A missing part is read as a null, which spells nothing. -/
theorem getD_spells_iff {name : Spelling} :
    (given.getD (.scalar .null)).Spells name ↔ ∃ value, given = some value ∧ value.Spells name := by
  cases given with
  | none =>
    constructor
    · intro spelled
      cases spelled
    · rintro ⟨value, absent, -⟩
      cases absent
  | some value => simp

theorem tokenOfEntries_eq_ok_iff :
    tokenOfEntries subject entries = .ok info ↔ DescribesToken (.mapping entries) info := by
  rw [describesToken_mapping_iff, tokenOfEntries]
  generalize field? entries "token_code_hash" = given
  -- One case for each form of a code hash; after it the address is read as any name.
  split <;> simp only [ok_bind, error_bind, named_eq_ok_iff, getD_spells_iff]
  · rw [givesHash_none_iff]
  · rw [givesHash_text_iff]
  · rename_i value noText
    constructor
    · intro impossible
      cases impossible
    · rintro ⟨hashed, -⟩
      generalize info.codeHash = codeHash at hashed
      cases hashed with
      | given hash => exact (noText _ rfl).elim

theorem tokenOf_eq_ok_iff : tokenOf subject document = .ok info ↔ document.DescribesToken info := by
  cases document with
  | mapping entries => exact tokenOfEntries_eq_ok_iff
  | list items =>
    constructor
    · intro read
      cases read
    · intro described
      cases described with
      | name spelled => cases spelled
  | scalar value =>
    cases value with
    | text address =>
      have asName : tokenOf subject (.scalar (.text address)) =
          ((Document.scalar (.text address)).name subject >>= fun ⟨name, named⟩ =>
            pure ⟨⟨.token, name⟩, .text "", named⟩) := rfl
      rw [asName, describesToken_text_iff]
      exact named_eq_ok_iff
    | _ =>
      constructor
      · intro read
        cases read
      · intro described
        cases described with
        | name spelled => cases spelled

theorem assetOf_eq_ok_iff : assetOf subject document = .ok info ↔ document.DescribesAsset info := by
  constructor
  · intro read
    unfold assetOf at read
    split at read
    · obtain ⟨hashless, native, spelled⟩ := named_eq_ok_iff.1 read
      obtain ⟨⟨_, name⟩, _, named⟩ := info
      cases native
      cases hashless
      exact .native spelled named
    · exact .token (tokenOf_eq_ok_iff.1 read)
    · cases read
  · intro described
    cases described with
    | native spelled named => exact named_eq_ok_iff.2 ⟨rfl, rfl, spelled⟩
    | token described => exact tokenOf_eq_ok_iff.2 described

theorem assetsOf_eq_ok_iff :
    assetsOf given = .ok (first, second) ↔ ∃ former latter, given = some (.list [former, latter]) ∧
      former.DescribesAsset first ∧ latter.DescribesAsset second := by
  constructor
  · intro read
    unfold assetsOf at read
    split at read
    · obtain ⟨_, firstRead, read⟩ := bind_eq_ok.1 read
      obtain ⟨_, secondRead, read⟩ := bind_eq_ok.1 read
      cases pure_eq_ok.1 read
      exact ⟨_, _, rfl, assetOf_eq_ok_iff.1 firstRead, assetOf_eq_ok_iff.1 secondRead⟩
    · cases read
  · rintro ⟨former, latter, rfl, formerGiven, latterGiven⟩
    simp only [assetsOf, assetOf_eq_ok_iff.2 formerGiven, assetOf_eq_ok_iff.2 latterGiven, ok_bind]
    rfl

theorem terms_eq_ok_iff {nomSubject denomSubject : String} {nom denom : Nat} :
    (∃ rate, rateEntries given = .ok rate ∧
      settingOr 3 nomSubject (field? rate "nom") = .ok nom ∧
      settingOr 1000 denomSubject (field? rate "denom") = .ok denom) ↔
      GivesRate given nom denom := by
  simp only [settingOr_eq_ok_iff]
  constructor
  · rintro ⟨rate, read, nomGiven, denomGiven⟩
    unfold rateEntries at read
    split at read <;> cases read
    · generalize (nom : Int) = nom, (denom : Int) = denom at nomGiven denomGiven
      cases nomGiven
      cases denomGiven
      exact .absent
    · exact .given nomGiven denomGiven
  · generalize (nom : Int) = nom, (denom : Int) = denom
    intro gives
    cases gives with
    | absent => exact ⟨[], rfl, .absent, .absent⟩
    | given nomGiven denomGiven => exact ⟨_, rfl, nomGiven, denomGiven⟩

theorem seedText_eq_ok_iff {seed : Scalar} :
    seedText given = .ok seed ↔
      Writable given ∧ seed = ((givenSeed given).map .text).getD .null := by
  cases given with
  | none => simp [seedText, Writable, givenSeed, eq_comm]
  | some value =>
    by_cases nothing : value = .scalar .null
    · subst nothing
      simp [seedText, Writable, givenSeed, figures, Scalar.figures, eq_comm]
    · have read : seedText (some value) = written value.figures (.text value.plain) := by
        unfold seedText
        split <;> simp_all
      have given : givenSeed (some value) = some value.plain := by
        unfold givenSeed
        split <;> simp_all
      rw [read, given]
      by_cases long : Illegible value.figures
      · simp [written_of_illegible long, Writable, long]
      · simp [written_of_not_illegible long, Writable, long, eq_comm]

theorem seedOf_givenSeed (given : Option Document) :
    seedOf (((givenSeed given).map .text).getD .null) = .ok (givenSeed given) := by
  cases givenSeed given <;> rfl

theorem make_eq_ok_iff {name : Spelling} {nom denom : Int} {config : Config} :
    make [first, second] (.text name) (.int nom) (.int denom)
        (((givenSeed given).map .text).getD .null) = .ok config ↔
      (config.first = first ∧ config.second = second) ∧ config.token = name ∧
      ((config.rate.nom : Int) = nom ∧ (config.rate.denom : Int) = denom) ∧
      config.seed = givenSeed given := by
  simp only [make, seedOf_givenSeed, CommissionRate.ofScalars, Scalar.integer, ok_bind]
  constructor
  · intro made
    split at made
    · cases made
    · obtain ⟨⟨name, named⟩, nameRead, made⟩ := bind_eq_ok.1 made
      obtain ⟨rate, checked, made⟩ := bind_eq_ok.1 made
      cases pure_eq_ok.1 made
      cases scalar_name_eq_ok_iff.1 nameRead
      exact ⟨⟨rfl, rfl⟩, rfl, CommissionRate.check_eq_ok_iff.1 checked, rfl⟩
  · obtain ⟨_, _, distinct, token, named, rate, seed⟩ := config
    rintro ⟨⟨rfl, rfl⟩, rfl, terms, rfl⟩
    have nameRead : (Scalar.text token).name "liquidity_token" = .ok ⟨token, named⟩ :=
      scalar_name_eq_ok_iff.2 rfl
    have checked : CommissionRate.ofTerms nom denom = .ok rate :=
      CommissionRate.check_eq_ok_iff.2 terms
    rw [dif_neg distinct, nameRead, checked]
    rfl

/-- A reader answers exactly with what the document describes. -/
theorem ofDocument_eq_ok_iff {config : Config} :
    ofDocument (.mapping entries) = .ok config ↔ Document.Describes entries config := by
  constructor
  · intro read
    obtain ⟨⟨first, second⟩, assetsRead, read⟩ := bind_eq_ok.1 read
    obtain ⟨rate, rateRead, read⟩ := bind_eq_ok.1 read
    obtain ⟨value, tokenRead, read⟩ := bind_eq_ok.1 read
    obtain ⟨nom, nomRead, read⟩ := bind_eq_ok.1 read
    obtain ⟨denom, denomRead, read⟩ := bind_eq_ok.1 read
    obtain ⟨seed, seedRead, made⟩ := bind_eq_ok.1 read
    obtain ⟨name, named, rfl, spelled⟩ := nameScalar_eq_ok_iff.1 tokenRead
    obtain ⟨writable, rfl⟩ := seedText_eq_ok_iff.1 seedRead
    obtain ⟨⟨rfl, rfl⟩, rfl, ⟨nomKept, denomKept⟩, seeded⟩ := make_eq_ok_iff.1 made
    -- The parts were read in another order than they are described in.
    constructor
    case assets => exact assetsOf_eq_ok_iff.1 assetsRead
    case token => exact getD_spells_iff.1 spelled
    case rate =>
      rw [nomKept, denomKept]
      exact terms_eq_ok_iff.1 ⟨rate, rateRead, nomRead, denomRead⟩
    case writable => exact writable
    case seed => exact seeded
  · intro described
    obtain ⟨rate, rateRead, nomRead, denomRead⟩ := terms_eq_ok_iff.2 described.rate
    have tokenRead : ((field? entries "liquidity_token").getD (.scalar .null)).nameScalar
        "liquidity_token" = .ok (.text config.token) :=
      nameScalar_eq_ok_iff.2 ⟨config.token, config.named, rfl, getD_spells_iff.2 described.token⟩
    have seedRead := seedText_eq_ok_iff.2 ⟨described.writable, rfl⟩
    have nomSet : settingOr CommissionRate.standard.nom "commission_rate.nom"
      (field? rate "nom") = .ok config.rate.nom := nomRead
    have denomSet : settingOr CommissionRate.standard.denom "commission_rate.denom"
      (field? rate "denom") = .ok config.rate.denom := denomRead
    simp only [ofDocument, assetsOf_eq_ok_iff.2 described.assets, rateRead, tokenRead, ok_bind,
      nomSet, denomSet, seedRead]
    exact make_eq_ok_iff.2 ⟨⟨rfl, rfl⟩, rfl, ⟨rfl, rfl⟩, described.seed⟩

end Config

end VeiledPool
