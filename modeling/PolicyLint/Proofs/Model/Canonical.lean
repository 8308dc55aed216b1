import PolicyLint.Model
import PolicyLint.Proofs.Decimal.Shortest
import PolicyLint.Proofs.Json.Origin

/-!
# Canonical texts of model settings

The canonical text says all of the settings, except for the sign of an infinite temperature, which is written
as null.
-/

namespace PolicyLint.Model

open Decimal (Binary Layout binary32)
open Json (Number)

/-! ### Temperatures -/

theorem proper_temperatureJson (t : Binary) : (temperatureJson t).Proper := by
  cases t with
  | finite negative x =>
    have proper := Layout.single.proper_numeral binary32 x
    exact ⟨proper.whole, proper.fraction, proper.exponent⟩
  | infinite _ => trivial

/-- Rounded temperatures that are written alike are the same, or both are infinite. -/
theorem temperatureJson_inj {t t' : Binary} (rounded : t.Rounded binary32) (rounded' : t'.Rounded binary32)
    (same : temperatureJson t = temperatureJson t') :
    t = t' ∨ ∃ sign sign', t = .infinite sign ∧ t' = .infinite sign' := by
  have numerals : Layout.single.numeral? binary32 t = Layout.single.numeral? binary32 t' := by
    cases t <;> cases t' <;> simp_all [temperatureJson, Layout.numeral?]
  rcases Layout.numeral?_inj Layout.single (by decide) (by decide) rounded rounded' numerals with equal | ⟨none, none'⟩
  · exact Or.inl equal
  · right
    cases t with
    | finite _ _ => cases none
    | infinite sign =>
      cases t' with
      | finite _ _ => cases none'
      | infinite sign' => exact ⟨sign, sign', rfl, rfl⟩

theorem rounded_toBinary (x : Number) : (x.toBinary binary32).Rounded binary32 := by
  have ofNat : ∀ negative n, (Binary.ofNat binary32 negative n).Rounded binary32 :=
    fun negative n => Binary.rounded_ofMagnitude (binary32.normal_round (by decide) n (by decide)) negative
  cases x with
  | natural n => exact ofNat false n
  | negative n => exact ofNat true n
  | real x =>
    cases x with
    | finite negative x =>
      have den : 0 < x.den := Nat.pow_pos (by decide)
      exact Binary.rounded_ofMagnitude (binary32.normal_round (by decide) x.num den) negative
    | infinite _ => trivial

theorem number_of_single {source : Json.Source} {node : Json.Node} {t : Binary}
    (decoded : Json.Decoder.single source node = .ok t) : ∃ x : Number, t = x.toBinary binary32 := by
  unfold Json.Decoder.single at decoded
  split at decoded
  · rename_i n beyond _ _
    cases number : Json.numberAt n beyond with
    | error fault =>
      rw [number] at decoded
      cases decoded
    | ok x =>
      rw [number] at decoded
      exact ⟨x, (Except.ok.inj decoded).symm⟩
  · cases decoded

/-- The temperature of accepted settings is a rounded number. -/
theorem rounded_of_accepted {text : String} {m : Model} (accepted : decoder.ofText text = .ok m) :
    m.temperature.Rounded binary32 := by
  obtain ⟨⟨model, temperature, maxTokens, version, ⟨⟩⟩, ⟨_, yields, _⟩, rfl⟩ := Json.Record.yield_ofText accepted
  have default : (Binary.zero binary32).Rounded binary32 := ⟨le_refl _, by decide, Or.inl rfl⟩
  rcases yields with ⟨source, node, decoded⟩ | absent | missing
  · obtain ⟨x, rfl⟩ := number_of_single decoded
    exact rounded_toBinary x
  · obtain rfl := Option.some.inj absent
    exact default
  · obtain rfl := Option.some.inj missing
    exact default

/-! ### Canonical texts -/

variable {m m' : Model}

theorem proper_toJson (m : Model) : m.toJson.Proper := by
  simp [toJson, Json.Proper, Json.ProperMembers, Json.nat, proper_temperatureJson, Decimal.Numeral.proper_ofNat]

theorem canonical_iff : m.canonical = m'.canonical ↔
    m.model = m'.model ∧ temperatureJson m.temperature = temperatureJson m'.temperature ∧
      m.maxTokens = m'.maxTokens ∧ m.promptVersion = m'.promptVersion := by
  constructor
  · intro same
    have values := Json.compact_inj m.proper_toJson m'.proper_toJson (String.ofList_injective same)
    simp only [toJson, Json.nat, Json.object.injEq, List.cons.injEq, Prod.mk.injEq, true_and, Json.string.injEq,
      Json.number.injEq, and_true] at values
    obtain ⟨model, temperature, tokens, version⟩ := values
    exact ⟨model, temperature, Decimal.Numeral.ofNat_inj tokens, version⟩
  · rintro ⟨model, temperature, tokens, version⟩
    rw [canonical, canonical, toJson, toJson, model, temperature, tokens, version]

/-- The settings are equal, or they differ only in the sign of an infinite temperature. -/
def Alike (m m' : Model) : Prop :=
  m = m' ∨ ∃ sign sign', m.temperature = .infinite sign ∧ m' = { m with temperature := .infinite sign' }

theorem Alike.canonical (alike : m.Alike m') : m.canonical = m'.canonical := by
  rcases alike with rfl | ⟨sign, sign', infinite, rfl⟩
  · rfl
  · rw [canonical_iff, infinite]
    exact ⟨rfl, rfl, rfl, rfl⟩

theorem alike_of_canonical (rounded : m.temperature.Rounded binary32) (rounded' : m'.temperature.Rounded binary32)
    (same : m.canonical = m'.canonical) : m.Alike m' := by
  obtain ⟨model, temperature, tokens, version⟩ := canonical_iff.mp same
  cases m
  cases m'
  dsimp only at model temperature tokens version
  rcases temperatureJson_inj rounded rounded' temperature with equal | ⟨sign, sign', infinite, infinite'⟩
  · left
    simp_all
  · right
    exact ⟨sign, sign', infinite, by simp_all⟩

theorem canonical_iff_of_accepted {text text' : String} (accepted : decoder.ofText text = .ok m)
    (accepted' : decoder.ofText text' = .ok m') :
    m.canonical = m'.canonical ↔ m.Alike m' :=
  ⟨alike_of_canonical (rounded_of_accepted accepted) (rounded_of_accepted accepted'), Alike.canonical⟩

end PolicyLint.Model
