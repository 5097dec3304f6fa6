import AnalysisWebhooks.Proofs.Text.Items
import AnalysisWebhooks.Proofs.Web.Settings

namespace AnalysisWebhooks

open AnalysisWebhooks.Action Calendar

def SettingValue.joined (texts : List String) : String :=
  ",".intercalate ((texts.map Text.trim).filter (· ≠ ""))

theorem SettingValue.text_many (texts : List String) :
    (SettingValue.many (texts.map .plain)).text = .plain (joined texts) := by
  have kept : ((texts.map RawText.plain).map RawText.trim).filter (!·.isEmpty) =
      ((texts.map Text.trim).filter (· ≠ "")).map .plain := by
    rw [List.map_map, List.filter_map, List.filter_map, List.map_map]
    refine congrArg (List.map _) (List.filter_congr fun text _ => ?_)
    show (!(Text.trim text).isEmpty) = decide (Text.trim text ≠ "")
    rw [Bool.eq_iff_iff]
    simp
  rw [text, kept, RawText.joined_plain, joined]

theorem SettingValue.commaItems_joined (texts : List String) :
    Text.commaItems (joined texts) = texts.flatMap Text.commaItems := by
  have dropped (texts : List String) :
      (texts.filter (· ≠ "")).flatMap Text.commaItems = texts.flatMap Text.commaItems := by
    induction texts with
    | nil => rfl
    | cons text rest ih =>
      by_cases blank : text = ""
      · have none : Text.commaItems "" = [] := by decide
        rw [List.filter_cons_of_neg (by simpa using blank), ih, List.flatMap_cons, blank, none]
        rfl
      · rw [List.filter_cons_of_pos (by simpa using blank), List.flatMap_cons, ih,
          List.flatMap_cons]
  rw [joined, Text.commaItems_intercalate, dropped, List.flatMap_map]
  exact List.flatMap_congr fun text _ => Text.commaItems_trim text

def SettingValue.Leaves (value : SettingValue) (component : Option String) (key : String)
    (list : List String) : Prop :=
  let t : SetSetting := ⟨.plain key, value, component.map .plain⟩
  (∃ r : Request, r.Puts t) ∧ ∀ (r : Request) (s : Service), r.Puts t → s.clock.toUtc? ≠ none →
    ∃ u, handle .webhooks r s = .ok .done u ∧
      (u.store.configurationFor component).items key = list

theorem SettingValue.Leaves.of_commaItems {value : SettingValue} {component : Option String}
    {key text : String} {list : List String} (written : value.text = .plain text)
    (h : Text.commaItems text = list) : value.Leaves component key list := by
  refine ⟨⟨_, puts_sending _⟩, fun r s puts dated => ?_⟩
  obtain ⟨u, hu⟩ := Option.ne_none_iff_exists'.1 dated
  let step : SettingStep := .put component key (some text)
  obtain ⟨store, applied⟩ : ∃ store, step.apply s.clock s.store = .ok store :=
    ⟨_, bind_eq_ok.2 ⟨_, storedDate_eq_ok.2 ⟨u, hu, rfl⟩, rfl⟩⟩
  have done : SetSetting.apply ⟨.plain key, value, component.map .plain⟩ s.clock s.store =
      .ok store := by
    rw [SetSetting.apply, RawText.option_mapM_encoded_plain, written,
      storedDate_eq_ok.2 ⟨u, hu, rfl⟩]
    exact applied
  have row : (store.settingRows component key).map (·.value) = [some text] := by
    rw [Store.settingRows_apply applied]
    simp [SettingStep.names, SettingStep.component, SettingStep.key, step, SettingStep.value?]
  refine ⟨_, handle_of_puts puts done, ?_⟩
  rw [Configuration.items, Store.lookup_configurationFor row]
  exact h

theorem list_settings_decode (component : Option String) (key : String) (texts : List String) :
    let list := texts.flatMap Text.trimmedPieces
    (SettingValue.many (texts.map .plain)).Leaves component key list ∧
    ((∀ text ∈ texts, ',' ∉ text.toList) → list = (texts.map Text.trim).filter (· ≠ "")) ∧
    (SettingValue.one (.plain (",".intercalate texts))).Leaves component key list ∧
    (SettingValue.many (list.map .plain)).Leaves component key list := by
  intro list
  have read : Text.commaItems (SettingValue.joined texts) = list := by
    rw [SettingValue.commaItems_joined, Text.commaItems_eq_trimmedPieces]
  have joined : Text.commaItems (",".intercalate texts) = list := by
    rw [Text.commaItems_intercalate, Text.commaItems_eq_trimmedPieces]
  have again : Text.commaItems (SettingValue.joined list) = list := by
    rw [SettingValue.commaItems_joined]
    refine Text.flatMap_commaItems fun item h => ?_
    obtain ⟨text, -, hitem⟩ := List.mem_flatMap.1 h
    rw [← Text.commaItems_eq_trimmedPieces] at hitem
    exact Text.commaItems_of_mem hitem
  refine ⟨.of_commaItems (SettingValue.text_many texts) read, fun free => ?_,
    .of_commaItems rfl joined, .of_commaItems (SettingValue.text_many list) again⟩
  rw [List.map_eq_flatMap, List.filter_flatMap]
  refine List.flatMap_congr fun text h => ?_
  exact Text.trimmedPieces_of_not_mem (free text h)

theorem list_settings_decode_spaced :
    let spaced : SetSetting := ⟨"k", .many ["\u2003a , b", "\t", "a"], some "p"⟩
    (∃ u, handle .webhooks (sending .setSetting (.object spaced.members)) {} = .ok .done u ∧
      (u.store.configurationFor (some "p")).items "k" = ["a", "b", "a"]) ∧
    (∀ text ∈ [" a", "", "b c ", "a"], ',' ∉ text.toList) ∧
    [" a", "", "b c ", "a"].flatMap Text.trimmedPieces = ["a", "b c", "a"] := by
  intro spaced
  have free : ∀ text ∈ [" a", "", "b c ", "a"], ',' ∉ text.toList := by decide
  obtain ⟨⟨-, leaves⟩, -⟩ :=
    list_settings_decode (some "p") "k" ["\u2003a , b", "\t", "a"]
  obtain ⟨-, plain, -⟩ := list_settings_decode (some "p") "k" [" a", "", "b c ", "a"]
  obtain ⟨u, done, read⟩ := leaves _ {} (puts_sending spaced) (by decide)
  exact ⟨⟨u, done, read.trans (by decide +kernel)⟩, free, (plain free).trans (by decide +kernel)⟩

end AnalysisWebhooks
