import VeiledPool.Proofs.Asset.Order
import VeiledPool.Proofs.Config.Description
import VeiledPool.Proofs.Request.Pricing

/-! # Which documents are accepted

A document is accepted exactly if it is well-formed, and refused for nothing but a
wrong type, a bad value or assets that make no pair. Whatever is accepted starts a
pair and a rate, and they depend on the assets, the token and the rate alone: not
on a seed, not on keys that nobody asked for, not on which asset comes first. All that
is asked of a seed is that it can be written out.
-/

namespace VeiledPool

inductive Fault.OfInput : Fault → Prop where
  | wrongType (cause : WrongType) : OfInput (.wrongType cause)
  | badValue (cause : BadValue) : OfInput (.badValue cause)
  | invalidAsset (cause : AssetMismatch) : OfInput (.invalidAsset cause)

theorem input_integer (subject : String) (value : Scalar) :
    FailsOnly Fault.OfInput (value.integer subject) := by
  cases value with
  | int value => exact failsOnly_ok value
  | _ => exact failsOnly_error (.wrongType _)

theorem input_scalarName (subject : String) (value : Scalar) :
    FailsOnly Fault.OfInput (value.name subject) := by
  unfold Scalar.name
  split
  · split
    · exact failsOnly_error (.badValue _)
    · exact failsOnly_ok _
  · exact failsOnly_error (.wrongType _)

theorem input_written {α : Type} (figures : List Int) (text : α) :
    FailsOnly Fault.OfInput (written figures text) := by
  unfold written
  split
  · exact failsOnly_ok text
  · exact failsOnly_error (.badValue _)

theorem input_ofTerms (nom denom : Int) :
    FailsOnly Fault.OfInput (CommissionRate.ofTerms nom denom) := by
  unfold CommissionRate.ofTerms CommissionRate.check
  split
  · exact failsOnly_raised (.badValue _) fun _ => .badValue _
  · split
    · exact failsOnly_ok _
    · exact failsOnly_error (.badValue _)

namespace Document

theorem input_name (subject : String) (document : Document) :
    FailsOnly Fault.OfInput (document.name subject) := by
  cases document with
  | scalar value => exact input_scalarName subject value
  | list items => exact failsOnly_error (.wrongType _)
  | mapping entries => exact failsOnly_error (.wrongType _)

theorem input_nameScalar (subject : String) (document : Document) :
    FailsOnly Fault.OfInput (document.nameScalar subject) := by
  cases document with
  | scalar value => exact failsOnly_bind (input_scalarName subject value) fun _ => failsOnly_ok _
  | list items => exact failsOnly_error (.wrongType _)
  | mapping entries => exact failsOnly_error (.wrongType _)

theorem input_setting (subject : String) (document : Document) :
    FailsOnly Fault.OfInput (document.setting subject) := by
  cases document with
  | scalar value =>
    refine failsOnly_bind (input_integer subject value) fun setting => ?_
    split
    · exact failsOnly_error (.badValue _)
    · exact failsOnly_ok _
  | list items => exact failsOnly_error (.wrongType _)
  | mapping entries => exact failsOnly_error (.wrongType _)

end Document

namespace Config

open Document

theorem input_settingOr (standard : Nat) (subject : String) (given : Option Document) :
    FailsOnly Fault.OfInput (settingOr standard subject given) := by
  cases given with
  | none => exact failsOnly_ok standard
  | some value => exact input_setting subject value

theorem input_tokenOfEntries (subject : String) (entries : List (Scalar × Document)) :
    FailsOnly Fault.OfInput (tokenOfEntries subject entries) := by
  unfold tokenOfEntries
  split
  -- A code hash may be left out; the address is read after it in any case.
  iterate 2
    · refine failsOnly_bind (failsOnly_ok _) fun codeHash => ?_
      exact failsOnly_bind (input_name _ _) fun address => failsOnly_ok _
  · exact failsOnly_error (.wrongType _)

theorem input_tokenOf (subject : String) (document : Document) :
    FailsOnly Fault.OfInput (tokenOf subject document) := by
  unfold tokenOf
  split
  · exact failsOnly_bind (input_scalarName _ _) fun _ => failsOnly_ok _
  · exact input_tokenOfEntries _ _
  · exact failsOnly_error (.wrongType _)

theorem input_assetOf (subject : String) (document : Document) :
    FailsOnly Fault.OfInput (assetOf subject document) := by
  unfold assetOf
  split
  · exact failsOnly_bind (input_name _ _) fun _ => failsOnly_ok _
  · exact input_tokenOf _ _
  · exact failsOnly_error (.badValue _)

theorem input_assetsOf (given : Option Document) : FailsOnly Fault.OfInput (assetsOf given) := by
  unfold assetsOf
  split
  · refine failsOnly_bind (input_assetOf _ _) fun first => ?_
    exact failsOnly_bind (input_assetOf _ _) fun second => failsOnly_ok _
  · exact failsOnly_error (.badValue _)

theorem input_rateEntries (given : Option Document) :
    FailsOnly Fault.OfInput (rateEntries given) := by
  unfold rateEntries
  split
  · exact failsOnly_ok _
  · exact failsOnly_ok _
  · exact failsOnly_error (.wrongType _)

theorem input_seedText (given : Option Document) : FailsOnly Fault.OfInput (seedText given) := by
  unfold seedText
  split
  · exact failsOnly_ok _
  · exact failsOnly_ok _
  · exact input_written _ _

theorem input_seedOf (seed : Scalar) : FailsOnly Fault.OfInput (seedOf seed) := by
  unfold seedOf
  split
  · exact failsOnly_ok _
  · exact failsOnly_ok _
  · exact failsOnly_error (.wrongType _)

theorem input_make (first second : AssetInfo) (token seed : Scalar) (nom denom : Int) :
    FailsOnly Fault.OfInput (make [first, second] token (.int nom) (.int denom) seed) := by
  simp only [make, CommissionRate.ofScalars, Scalar.integer, ok_bind]
  split
  · exact failsOnly_error (.invalidAsset _)
  · refine failsOnly_bind (input_scalarName _ _) fun _ => ?_
    refine failsOnly_bind (input_seedOf seed) fun _ => ?_
    exact failsOnly_bind (input_ofTerms nom denom) fun _ => failsOnly_ok _

theorem input_ofDocument (document : Document) : FailsOnly Fault.OfInput (ofDocument document) := by
  cases document with
  | scalar value => exact failsOnly_error (.wrongType _)
  | list items => exact failsOnly_error (.wrongType _)
  | mapping entries =>
    refine failsOnly_bind (input_assetsOf _) fun assets => ?_
    refine failsOnly_bind (input_rateEntries _) fun rate => ?_
    refine failsOnly_bind (input_nameScalar _ _) fun token => ?_
    refine failsOnly_bind (input_settingOr _ _ _) fun nom => ?_
    refine failsOnly_bind (input_settingOr _ _ _) fun denom => ?_
    exact failsOnly_bind (input_seedText _) fun seed => input_make _ _ _ _ _ _

end Config

namespace Document

/-- A document with everything that a configuration takes. -/
inductive WellFormed : Document → Prop where
  | mapping {entries : List (Scalar × Document)} {former latter token : Document}
    {first second : AssetInfo} {name : Spelling} {nom denom : Int}
    (assets : field? entries "assets" = some (.list [former, latter]))
    (firstGiven : former.DescribesAsset first) (secondGiven : latter.DescribesAsset second)
    (distinct : first.kind ≠ second.kind ∨ first.name ≠ second.name)
    (tokenGiven : field? entries "liquidity_token" = some token)
    (spelled : token.Spells name) (named : name ≠ "")
    (rate : GivesRate (field? entries "commission_rate") nom denom)
    (positive : 0 < denom) (proper : 0 ≤ nom ∧ nom ≤ denom)
    (writable : Writable (field? entries "entropy_seed")) :
    WellFormed (.mapping entries)

/-- The same assets in either order, with the same token and the same rate; everything else may
    differ. -/
structure Restates (entries others : List (Scalar × Document)) : Prop where
  assets : ∃ former latter, field? entries "assets" = some (.list [former, latter]) ∧
    (field? others "assets" = some (.list [former, latter]) ∨
      field? others "assets" = some (.list [latter, former]))
  token : field? others "liquidity_token" = field? entries "liquidity_token"
  rate : field? others "commission_rate" = field? entries "commission_rate"

theorem not_same_iff {first second : AssetInfo} :
    ¬ first.Same second ↔ first.kind ≠ second.kind ∨ first.name ≠ second.name := by
  obtain ⟨⟨_, _⟩, _, _⟩ := first
  obtain ⟨⟨_, _⟩, _, _⟩ := second
  simp only [AssetInfo.Same, AssetInfo.kind, AssetInfo.name, AssetId.mk.injEq]
  exact Decidable.not_and_iff_not_or_not

variable {entries others : List (Scalar × Document)} {config : Config}

theorem exists_describes_iff :
    (∃ config, Describes entries config) ↔ WellFormed (.mapping entries) := by
  constructor
  · rintro ⟨config, described⟩
    obtain ⟨former, latter, assets, firstGiven, secondGiven⟩ := described.assets
    obtain ⟨value, tokenGiven, spelled⟩ := described.token
    have positive : 0 < (config.rate.denom : Int) := Int.natCast_pos.2 config.rate.denom_pos
    have proper : 0 ≤ (config.rate.nom : Int) ∧ (config.rate.nom : Int) ≤ config.rate.denom :=
      ⟨Int.natCast_nonneg _, Int.ofNat_le.2 config.rate.nom_le⟩
    exact .mapping assets firstGiven secondGiven (not_same_iff.1 config.distinct) tokenGiven
      spelled config.named described.rate positive proper described.writable
  · intro wellFormed
    cases wellFormed with
    | @mapping _ former latter token first second name nom denom assets firstGiven secondGiven
        distinct tokenGiven spelled named rate positive proper writable =>
      obtain ⟨nom, rfl⟩ := Int.eq_ofNat_of_zero_le proper.1
      obtain ⟨denom, rfl⟩ := Int.eq_ofNat_of_zero_le (Int.le_of_lt positive)
      let config : Config :=
        { first, second, token := name, named
          distinct := not_same_iff.2 distinct
          rate := ⟨nom, denom, Int.natCast_pos.1 positive, Int.ofNat_le.1 proper.2⟩
          seed := givenSeed (field? entries "entropy_seed") }
      have assetsKept : ∃ first second, field? entries "assets" = some (.list [first, second]) ∧
          first.DescribesAsset config.first ∧ second.DescribesAsset config.second :=
        ⟨former, latter, assets, firstGiven, secondGiven⟩
      exact ⟨config, assetsKept, ⟨token, tokenGiven, spelled⟩, rate, writable, rfl⟩

end Document

namespace Config

theorem create_pair (config : Config) :
    Pair.create [config.first, config.second] (.text config.token) = .ok config.pair := by
  simp only [Pair.create, AssetPair.arrange, dif_neg config.distinct, ok_bind, Pair.ofAssets,
    dif_neg config.named]
  rfl

def turned (config : Config) : Config :=
  { config with
    first := config.second
    second := config.first
    distinct := fun same => config.distinct same.symm }

theorem turned_pair (config : Config) : config.turned.pair = config.pair := by
  have arranged : AssetPair.ofDistinct config.turned.first config.turned.second
      config.turned.distinct = AssetPair.ofDistinct config.first config.second config.distinct :=
    AssetPair.ofDistinct_comm _ _
  rw [pair, pair, arranged]
  rfl

/-- What a document says about assets, token and rate makes a configuration in either order of
    the assets, whatever is said besides. -/
theorem exists_describes_of_restates {entries others : List (Scalar × Document)} {config : Config}
    (described : Document.Describes entries config) (same : Document.Restates entries others)
    (writable : Document.Writable (Document.field? others "entropy_seed")) :
    ∃ config', Document.Describes others config' ∧ config'.pair = config.pair ∧
      config'.rate = config.rate := by
  obtain ⟨former, latter, assets, either⟩ := same.assets
  obtain ⟨former', latter', assets', firstGiven, secondGiven⟩ := described.assets
  cases assets.symm.trans assets'
  have tokenKept := described.token
  have rateKept := described.rate
  rw [← same.token] at tokenKept
  rw [← same.rate] at rateKept
  -- The two configurations may differ in their seeds, which no pair depends on.
  let seed := Document.givenSeed (Document.field? others "entropy_seed")
  cases either with
  | inl kept =>
    refine ⟨{ config with seed }, ⟨?_, tokenKept, rateKept, writable, rfl⟩, rfl, rfl⟩
    exact ⟨former, latter, kept, firstGiven, secondGiven⟩
  | inr swapped =>
    refine ⟨{ config.turned with seed }, ⟨?_, tokenKept, rateKept, writable, rfl⟩,
      config.turned_pair, rfl⟩
    exact ⟨latter, former, swapped, secondGiven, firstGiven⟩

/-- What a configuration makes of a document, and what can be started from it. -/
structure Starts (entries : List (Scalar × Document)) (config : Config) : Prop where
  /-- The assets are in the order in which they were written down. -/
  order : ∃ former latter, Document.field? entries "assets" = some (.list [former, latter]) ∧
    former.DescribesAsset config.first ∧ latter.DescribesAsset config.second
  token : ∃ value, Document.field? entries "liquidity_token" = some value ∧
    value.Spells config.token
  rate : Document.GivesRate (Document.field? entries "commission_rate") config.rate.nom
    config.rate.denom
  /-- The terms of the rate pass wherever a rate is set. -/
  settings : CommissionRate.ofScalars (.int config.rate.nom) (.int config.rate.denom) =
    .ok config.rate
  /-- They pass wherever a price is computed, too. -/
  pricing : Request.rate (.int config.rate.nom) (.int config.rate.denom) = .ok config.rate
  /-- The parts make a pair, and nobody has traded on it. -/
  pair : Pair.create [config.first, config.second] (.text config.token) = .ok config.pair
  /-- Whoever says the same about assets, token and rate starts the same pair. -/
  restated : ∀ others, Document.Restates entries others →
    Document.Writable (Document.field? others "entropy_seed") → ∃ config',
      ofDocument (.mapping others) = .ok config' ∧ config'.pair = config.pair ∧
        config'.rate = config.rate

variable {entries : List (Scalar × Document)} {config : Config}

theorem starts_of_describes (described : Document.Describes entries config) :
    Starts entries config := by
  constructor
  case order => exact described.assets
  case token => exact described.token
  case rate => exact described.rate
  case settings =>
    simp only [CommissionRate.ofScalars, Scalar.integer, ok_bind, config.rate.ofTerms_self]
  case pricing => exact Request.rate_terms config.rate
  case pair => exact config.create_pair
  case restated =>
    intro others same writable
    obtain ⟨config', described', pair, rate⟩ :=
      exists_describes_of_restates described same writable
    exact ⟨config', ofDocument_eq_ok_iff.2 described', pair, rate⟩

/-- A document is accepted exactly if it is well-formed. A refusal is for its types, its values
    or its assets, and whatever is accepted starts a pair and a rate. -/
theorem accepts_wellFormed (document : Document) :
    ((∃ config, ofDocument document = .ok config) ↔ document.WellFormed) ∧
      FailsOnly Fault.OfInput (ofDocument document) ∧
      ∀ config, ofDocument document = .ok config →
        ∃ entries, document = .mapping entries ∧ Starts entries config := by
  refine ⟨?accepted, input_ofDocument document, ?started⟩
  case accepted =>
    cases document with
    | mapping entries =>
      simp only [ofDocument_eq_ok_iff]
      exact Document.exists_describes_iff
    | scalar value =>
      constructor
      · rintro ⟨config, read⟩
        cases read
      · intro impossible
        cases impossible
    | list items =>
      constructor
      · rintro ⟨config, read⟩
        cases read
      · intro impossible
        cases impossible
  case started =>
    intro config read
    cases document with
    | mapping entries => exact ⟨entries, rfl, starts_of_describes (ofDocument_eq_ok_iff.1 read)⟩
    | scalar value => cases read
    | list items => cases read

/-- A token with a code hash, and a native currency. -/
def sampleAssets : Document :=
  .list [
    .mapping [(.text "token", .mapping [
      (.text "token_code_hash", .scalar (.text "0f1e")),
      (.text "contract_addr", .scalar (.text "secret1token"))])],
    .mapping [(.text "native", .scalar (.text "uscrt"))]]

/-- A document with half a rate, a seed that is no text and a key that nobody asked for. -/
def sampleEntries : List (Scalar × Document) :=
  [(.text "comment", .scalar .null), (.text "assets", sampleAssets),
    (.text "commission_rate", .mapping [(.text "nom", .scalar (.int 4))]),
    (.text "liquidity_token", .scalar (.text "secret1lp")),
    (.text "entropy_seed", .scalar (.bool true))]

/-- The sample with its assets the other way round and nothing that could be left out. -/
def sampleTurned : List (Scalar × Document) :=
  [(.text "liquidity_token", .scalar (.text "secret1lp")),
    (.text "commission_rate", .mapping [(.text "nom", .scalar (.int 4))]),
    (.text "assets", .list [
      .mapping [(.text "native", .scalar (.text "uscrt"))],
      .mapping [(.text "token", .mapping [
        (.text "token_code_hash", .scalar (.text "0f1e")),
        (.text "contract_addr", .scalar (.text "secret1token"))])]])]

theorem accepts_wellFormed_sample :
    (Document.mapping sampleEntries).WellFormed ∧
      (∃ config config', ofDocument (.mapping sampleEntries) = .ok config ∧
        ofDocument (.mapping sampleTurned) = .ok config' ∧ config'.pair = config.pair ∧
        config.pair.assets.first.name = "uscrt" ∧ config.rate.nom = 4 ∧
        config.rate.denom = 1000) ∧
      ∃ fault, ofDocument (.mapping []) = .error fault ∧ fault.OfInput := by
  obtain ⟨accepted, -, started⟩ := accepts_wellFormed (.mapping sampleEntries)
  obtain ⟨-, refused, -⟩ := accepts_wellFormed (.mapping [])
  obtain ⟨config, read⟩ : ∃ config, ofDocument (.mapping sampleEntries) = .ok config := ⟨_, rfl⟩
  obtain ⟨_, same, starts⟩ := started config read
  cases same
  have restates : Document.Restates sampleEntries sampleTurned :=
    ⟨⟨_, _, rfl, .inr rfl⟩, rfl, rfl⟩
  obtain ⟨config', read', pair, -⟩ := starts.restated _ restates nofun
  have fault : ofDocument (.mapping []) = .error (.badValue .assetList) := rfl
  refine ⟨accepted.1 ⟨config, read⟩, ⟨config, config', read, read', pair, ?_⟩, _, fault,
    refused _ fault⟩
  cases read
  exact ⟨rfl, rfl, rfl⟩

/-- A document that says no more than it has to. -/
def sampleUnseeded : List (Scalar × Document) :=
  [(.text "assets", sampleAssets), (.text "liquidity_token", .scalar (.text "secret1lp"))]

/-- A seed of 5001 digits is what the second document is refused for. -/
theorem illegible_seed :
    (∃ config, ofDocument (.mapping sampleUnseeded) = .ok config) ∧
      ofDocument (.mapping (sampleUnseeded ++
        [(.text "entropy_seed", .scalar (.int (Nat.pow 10 5000 : Nat)))])) =
          .error (.badValue .illegible) := by
  refine ⟨⟨_, rfl⟩, ?_⟩
  have lastRead : ∀ seed, ∃ start : Scalar → Except Fault Config,
      ofDocument (.mapping (sampleUnseeded ++ [(.text "entropy_seed", seed)])) =
        seedText (some seed) >>= start := fun _ => ⟨_, rfl⟩
  obtain ⟨start, read⟩ := lastRead (.scalar (.int (Nat.pow 10 5000 : Nat)))
  have long : Illegible [((Nat.pow 10 5000 : Nat) : Int)] := ⟨_, .head _, by decide +kernel⟩
  have unread : seedText (some (.scalar (.int (Nat.pow 10 5000 : Nat)))) =
      .error (.badValue .illegible) := written_of_illegible long _
  rw [read, unread]
  rfl

end Config

end VeiledPool
