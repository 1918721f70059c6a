import VeiledPool.Config.Basic
import VeiledPool.Document.Basic

/-! # Reading configurations

A configuration document is a mapping with `assets`, `liquidity_token` and,
optionally, `commission_rate` and `entropy_seed`. Each asset is a mapping with
one key that says what it is. Other keys are ignored, and any seed will do that can
be written out: what is no text is used in its written form.
-/

namespace VeiledPool

namespace Document

def name (subject : String) : Document → Except Fault { name : Spelling // name ≠ "" }
  | scalar value => value.name subject
  | _ => .error (.wrongType (.unmet subject .text))

/-- The scalar that stands for a name in a document. -/
def nameScalar (subject : String) : Document → Except Fault Scalar
  | scalar value => do
    let _ ← value.name subject
    pure value
  | _ => .error (.wrongType (.unmet subject .text))

/-- A setting: an integer that is not negative. -/
def setting (subject : String) : Document → Except Fault Nat
  | scalar value => do
    let value ← value.integer subject
    if value < 0 then .error (.badValue (.negativeSetting subject)) else .ok value.toNat
  | _ => .error (.wrongType (.unmet subject .integer))

end Document

namespace Config

def tokenOfEntries (subject : String) (entries : List (Scalar × Document)) :
    Except Fault AssetInfo := do
  let codeHash ← match Document.field? entries "token_code_hash" with
    | none => .ok (.text "")
    | some (.scalar (.text codeHash)) => .ok (.text codeHash)
    | some _ => .error (.wrongType (.unmet (subject ++ ".token_code_hash") .text))
  let address := (Document.field? entries "contract_addr").getD (.scalar .null)
  let ⟨address, named⟩ ← address.name (subject ++ ".contract_addr")
  pure ⟨⟨.token, address⟩, codeHash, named⟩

def tokenOf (subject : String) : Document → Except Fault AssetInfo
  | .scalar (.text value) => do
    let ⟨address, named⟩ ← (Scalar.text value).name subject
    pure ⟨⟨.token, address⟩, .text "", named⟩
  | .mapping entries => tokenOfEntries subject entries
  | _ => .error (.wrongType (.unmet subject .textOrMapping))

def assetOf (subject : String) : Document → Except Fault AssetInfo
  | .mapping [(.text (.text "native"), value)] => do
    let ⟨name, named⟩ ← value.name (subject ++ ".native")
    pure ⟨⟨.native, name⟩, .text "", named⟩
  | .mapping [(.text (.text "token"), value)] => tokenOf (subject ++ ".token") value
  | _ => .error (.badValue (.assetForm subject))

def assetsOf : Option Document → Except Fault (AssetInfo × AssetInfo)
  | some (.list [first, second]) => do
    let first ← assetOf "assets[0]" first
    let second ← assetOf "assets[1]" second
    pure (first, second)
  | _ => .error (.badValue .assetList)

/-- The entries of the rate; none if there is no rate. -/
def rateEntries : Option Document → Except Fault (List (Scalar × Document))
  | none => .ok []
  | some (.mapping entries) => .ok entries
  | some _ => .error (.wrongType (.unmet "commission_rate" .mapping))

/-- The seed in written form. A null counts as no seed. -/
def seedText : Option Document → Except Fault Scalar
  | none => .ok .null
  | some (.scalar .null) => .ok .null
  | some seed => written seed.figures (.text seed.plain)

/-- A setting, or its standard value where it is not given. -/
def settingOr (standard : Nat) (subject : String) (given : Option Document) : Except Fault Nat :=
  match given with
  | none => .ok standard
  | some value => value.setting subject

def ofDocument : Document → Except Fault Config
  | .mapping entries => do
    let (first, second) ← assetsOf (Document.field? entries "assets")
    let rate ← rateEntries (Document.field? entries "commission_rate")
    let token := (Document.field? entries "liquidity_token").getD (.scalar .null)
    let token ← token.nameScalar "liquidity_token"
    let nom ← settingOr CommissionRate.standard.nom "commission_rate.nom"
      (Document.field? rate "nom")
    let denom ← settingOr CommissionRate.standard.denom "commission_rate.denom"
      (Document.field? rate "denom")
    let seed ← seedText (Document.field? entries "entropy_seed")
    make [first, second] token (.int nom) (.int denom) seed
  | _ => .error (.wrongType (.unmet "pair config" .mapping))

/-- Reads the text of a file, which has to hold one mapping. The YAML in it is left to
    `read`. -/
def ofYaml (read : String → Except Fault Document) (text : String) : Except Fault Config := do
  match ← read text with
  | .mapping entries => ofDocument (.mapping entries)
  | _ => .error (.wrongType (.unmet "pair config YAML" .mapping))

end Config

end VeiledPool
