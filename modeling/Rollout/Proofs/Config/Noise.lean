import Rollout.Config.Comparison
import Rollout.Proofs.Config.RoundTrip
import Rollout.Proofs.Yaml.Noise

/-!
Textual noise restarts nothing. A configuration does not depend on the order of entries, on entries
that its sections do not know, nor on whether a field that holds its default is written, so two
files that differ in nothing else leave every component with the hash it has.
-/

namespace Rollout

namespace Config

open Fields (overlooks_defaulted overlooks_strict)
open Yaml (Item Outline Unseen)

variable {R : Outline → Item → Item → Prop}

section Members

variable {σ : Type} {known : List (String × Outline)} {key : String}

theorem overlooks_number {get : σ → Int32} (hunseen : Unseen R)
    (hmem : (key, .number (0 : Int32).toInt) ∈ known) : (number key get).Overlooks R known :=
  overlooks_defaulted hmem (Codec.overlooks_int32 hunseen 0)

theorem overlooks_textField {get : σ → String} (hunseen : Unseen R)
    (hmem : (key, .text "") ∈ known) : (text key get).Overlooks R known :=
  overlooks_defaulted hmem (Codec.overlooks_text hunseen "")

end Members

/-! ### Sections -/

theorem Server.overlooks (hunseen : Unseen R) :
    Server.codec.Overlooks R (.section ({} : Server).entries) {} := by
  refine overlooks_strict hunseen rfl (by simp [entries]) ?_ rfl
  exact ((overlooks_number hunseen (by simp [entries])).map Server.mk
    |>.seq (overlooks_number hunseen (by simp [entries]))
    |>.seq (overlooks_textField hunseen (by simp [entries])))

theorem Ring.overlooks (hunseen : Unseen R) :
    Ring.codec.Overlooks R (.section ({} : Ring).entries) {} := by
  refine overlooks_strict hunseen rfl (by simp [entries]) ?_ rfl
  exact (overlooks_number hunseen (by simp [entries])).map Ring.mk

theorem Lifecycler.overlooks (hunseen : Unseen R) :
    Lifecycler.codec.Overlooks R (.section ({} : Lifecycler).entries) {} := by
  refine overlooks_strict hunseen rfl (by simp [entries]) ?_ rfl
  exact (overlooks_defaulted (by simp [entries]) (Ring.overlooks hunseen)).map Lifecycler.mk

theorem Ingester.overlooks (hunseen : Unseen R) :
    Ingester.codec.Overlooks R (.section ({} : Ingester).entries) {} := by
  refine overlooks_strict hunseen rfl (by simp [entries]) ?_ rfl
  exact (overlooks_defaulted (by simp [entries]) (Lifecycler.overlooks hunseen)).map Ingester.mk

theorem Limits.overlooks (hunseen : Unseen R) :
    Limits.codec.Overlooks R (.section ({} : Limits).entries) {} := by
  refine overlooks_strict hunseen rfl (by simp [entries]) ?_ rfl
  exact ((overlooks_number hunseen (by simp [entries])).map Limits.mk
    |>.seq (overlooks_number hunseen (by simp [entries]))
    |>.seq (overlooks_number hunseen (by simp [entries]))
    |>.seq (overlooks_number hunseen (by simp [entries]))
    |>.seq (overlooks_number hunseen (by simp [entries]))
    |>.seq (overlooks_number hunseen (by simp [entries]))
    |>.seq (overlooks_number hunseen (by simp [entries]))
    |>.seq (overlooks_number hunseen (by simp [entries]))
    |>.seq (overlooks_number hunseen (by simp [entries]))
    |>.seq (overlooks_number hunseen (by simp [entries]))
    |>.seq (overlooks_number hunseen (by simp [entries])))

theorem Aws.overlooks (hunseen : Unseen R) :
    Aws.codec.Overlooks R (.section ({} : Aws).entries) {} := by
  refine overlooks_strict hunseen rfl (by simp [entries]) ?_ rfl
  exact ((overlooks_textField hunseen (by simp [entries])).map Aws.mk
    |>.seq (overlooks_textField hunseen (by simp [entries]))
    |>.seq (overlooks_textField hunseen (by simp [entries]))
    |>.seq (overlooks_textField hunseen (by simp [entries]))
    |>.seq (overlooks_textField hunseen (by simp [entries])))

theorem Storage.overlooks (hunseen : Unseen R) :
    Storage.codec.Overlooks R (.section ({} : Storage).entries) {} := by
  refine overlooks_strict hunseen rfl (by simp [entries]) ?_ rfl
  exact (overlooks_defaulted (by simp [entries]) (Aws.overlooks hunseen)).map Storage.mk

theorem Compactor.overlooks (hunseen : Unseen R) :
    Compactor.codec.Overlooks R (.section ({} : Compactor).entries) {} := by
  refine overlooks_strict hunseen rfl (by simp [entries]) ?_ rfl
  exact (overlooks_textField hunseen (by simp [entries])).map Compactor.mk
    |>.seq (overlooks_textField hunseen (by simp [entries]))

/-! ### The whole file -/

/-- The sections and fields that a configuration file may have, with their defaults. -/
def known : Outline := .section ({} : Config).outline

theorem overlooks (hunseen : Unseen R) : codec.Overlooks R known {} := by
  refine overlooks_strict hunseen rfl (by simp [outline_eq]) ?_ rfl
  exact ((overlooks_defaulted (by simp [outline_eq]) (Server.overlooks hunseen)).map Config.mk
    |>.seq (overlooks_defaulted (by simp [outline_eq]) (Ingester.overlooks hunseen))
    |>.seq (overlooks_defaulted (by simp [outline_eq]) (Limits.overlooks hunseen))
    |>.seq (overlooks_defaulted (by simp [outline_eq]) (Storage.overlooks hunseen))
    |>.seq (overlooks_defaulted (by simp [outline_eq]) (Compactor.overlooks hunseen)))

/-- Documents that differ in noise describe the same configuration, or none. -/
theorem ofDocument?_eq_of_noise {before after : Yaml.Document} (hfree : before.root.isAliasFree)
    (hnoise : Relation.EqvGen (Yaml.Noise known) before.root after.root) :
    ofDocument? before = ofDocument? after :=
  Yaml.read_eq_of_noise overlooks hfree hnoise

end Config

namespace Comparison

/-- A file whose document differs from that of the old one in noise alone changes nothing, and
leaves every component with the hash of the old file. -/
theorem compare_noise {old new : ByteArray} {before after : Yaml.Document}
    (hold : Yaml.Document.ofBytes? old = some before)
    (hnew : Yaml.Document.ofBytes? new = some after)
    (hconfig : (Config.ofDocument? before).isSome) (hfree : before.root.isAliasFree)
    (hnoise : Relation.EqvGen (Yaml.Noise Config.known) before.root after.root) :
    ConfigChange.between old new = .ok (.unchanged (Config.hash old)) ∧
      compare old new = .ok (.uniform (Config.hash old)) := by
  obtain ⟨config, hbefore⟩ := Option.isSome_iff_exists.mp hconfig
  have hafter : Config.ofDocument? after = some config := by
    rw [← Config.ofDocument?_eq_of_noise hfree hnoise, hbefore]
  have holdConfig : Config.ofBytes? old = some config := by
    rw [Config.ofBytes?, hold]
    exact hbefore
  have hnewConfig : Config.ofBytes? new = some config := by
    rw [Config.ofBytes?, hnew]
    exact hafter
  have hbetween : ConfigChange.between old new = .ok (.unchanged (Config.hash old)) := by
    simp [ConfigChange.between, holdConfig, hnewConfig]
  constructor
  · exact hbetween
  · rw [compare, hbetween]
    rfl

open Yaml (Noise Outline)

/-- A file with one limit and the level of the log. -/
def sparse : List (String × Outline) := [
  ("limits_config", .section [("max_line_size", .number 1)]),
  ("server", .section [("log_level", .text "info")])]

/-- The same file in another order, with a limit of zero and a setting that is not known. -/
def noisy : List (String × Outline) := [
  ("server", .section [("log_level", .text "info"), ("profile", .text "cpu")]),
  ("limits_config", .section [("max_query_series", .number 0), ("max_line_size", .number 1)])]

theorem noise_sparse : Relation.EqvGen (Noise Config.known) (Outline.section sparse).node
    (Outline.section noisy).node := by
  have hreordered : Noise Config.known (Outline.section sparse).node
      (Outline.section sparse.reverse).node := .reordered (.here (.swap _ _ []))
  let labelled : List (String × Outline) := [
    ("server", .section [("log_level", .text "info"), ("profile", .text "cpu")]),
    ("limits_config", .section [("max_line_size", .number 1)])]
  have hunknown : Noise Config.known (Outline.section sparse.reverse).node
      (Outline.section labelled).node := by
    have hserver : Noise (.section ({} : Config.Server).entries)
        (Outline.section [("log_level", .text "info")]).node
        (Outline.section [("log_level", .text "info"), ("profile", .text "cpu")]).node :=
      @Noise.unknown _ (Outline.entryNodes [("log_level", .text "info")]) [] _ .plain none "profile"
        (by decide)
    exact @Noise.field _ [] _ _ _ _ .plain none "server" (by simp [Config.outline_eq]) hserver
  have hmissing : Noise Config.known (Outline.section labelled).node
      (Outline.section noisy).node := by
    have hlimits : Noise (.section ({} : Config.Limits).entries)
        (Outline.section [("max_line_size", .number 1)]).node
        (Outline.section [("max_query_series", .number 0), ("max_line_size", .number 1)]).node := by
      refine @Noise.missing _ [] _ _ (.number 0) .plain none "max_query_series" ?_ ?_ ?_
      · simp [Config.Limits.entries]
      · exact Outline.integer?_number (by decide)
      · intro entry hmem
        obtain rfl := List.mem_singleton.mp hmem
        simp [Yaml.Node.MayRead]
    exact @Noise.field _ (_ :: []) _ _ _ _ .plain none "limits_config" (by simp [Config.outline_eq])
      hlimits
  exact .trans _ _ _ (.rel _ _ hreordered) (.trans _ _ _ (.rel _ _ hunknown) (.rel _ _ hmissing))

/-- The other order, the zero and the unknown setting restart nothing. -/
theorem compare_noise_sparse :
    ConfigChange.between (Yaml.render sparse).toUTF8 (Yaml.render noisy).toUTF8 =
        .ok (.unchanged (Config.hash (Yaml.render sparse).toUTF8)) ∧
      compare (Yaml.render sparse).toUTF8 (Yaml.render noisy).toUTF8 =
        .ok (.uniform (Config.hash (Yaml.render sparse).toUTF8)) := by
  have hdocument : ∀ {sections : List (String × Outline)}, sections ≠ [] →
      Outline.areWellFormed sections → Yaml.Document.ofBytes? (Yaml.render sections).toUTF8 =
        some ⟨(Outline.section sections).node, []⟩ := by
    intro sections hne hwell
    rw [Yaml.Document.ofBytes?_toUTF8, Yaml.Document.ofText?_render hne hwell]
  refine compare_noise (hdocument (by simp [sparse]) ?_) (hdocument (by simp [noisy]) ?_)
    (by decide +kernel) (by decide) noise_sparse
  · simp [sparse, Outline.areWellFormed, Outline.isWellFormed, Outline.isKey, Yaml.isLetter,
      Yaml.isWord]
  · simp [noisy, Outline.areWellFormed, Outline.isWellFormed, Outline.isKey, Yaml.isLetter,
      Yaml.isWord]

end Comparison

end Rollout
