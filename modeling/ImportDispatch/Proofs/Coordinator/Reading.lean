import ImportDispatch.Coordinator
import ImportDispatch.Proofs.Calendar.Reading
import ImportDispatch.Proofs.Markup.Elements
/-!
# Reading a coordinator

The document of a coordinator is a tree of elements of one shape, and it is read back with every value in it
(`Coordinator.read_document_eq`).  The engine counts in minutes: what an attribute says about an instant is the start of
its minute (`LocalTime.ofMinuteText?_minuteText`).
-/
namespace ImportDispatch

open Markup

/-! ## The tree of a coordinator -/

def propertyElement (name value : Text) : Element :=
  .nested "property".toList [] (.text "name".toList [] name) [.text "value".toList [] value]

def Coordinator.element (coordinator : Coordinator) : Element :=
  .nested "coordinator-app".toList coordinator.attributes
    (.nested "action".toList []
      (.nested "workflow".toList [] (.text "app-path".toList [] coordinator.appDir)
        [.nested "configuration".toList [] (propertyElement "oozie.libpath".toList coordinator.libPath)
          [propertyElement "oozie.use.system.libpath".toList "true".toList]])
      [])
    []

theorem Coordinator.steps_element (coordinator : Coordinator) : coordinator.element.steps = coordinator.steps := rfl

theorem Coordinator.wellNamed (coordinator : Coordinator) : WellNamed coordinator.steps := by
  have hkinds : coordinator.steps.filterMap Step.kind? =
      ("coordinator-app".toList, ["name", "frequency", "start", "end", "timezone", "xmlns"].map String.toList) ::
        ["action", "workflow", "app-path", "configuration", "property", "name", "value", "property", "name", "value"].map
          fun name => (name.toList, []) := rfl
  rw [WellNamed, hkinds]
  decide

theorem Coordinator.plain_element (coordinator : Coordinator) : coordinator.element.Plain := coordinator.wellNamed.plain

/-- A coordinator is read back from its document, with all its values. -/
theorem Coordinator.read_document_eq (coordinator : Coordinator) :
    Element.read coordinator.document = some coordinator.element := by
  rw [Coordinator.document, ← coordinator.steps_element, Element.read_steps coordinator.plain_element]

/-! ## Instants in attributes -/

namespace LocalTime

/-- The start of the minute. -/
def toMinute (t : LocalTime) : LocalTime where
  day := t.day
  second := t.second / 60 * 60
  nano := 0
  day_ge := t.day_ge
  day_le := t.day_le
  second_lt := by have := t.second_lt; omega
  nano_lt := Nat.zero_lt_of_lt t.nano_lt

/-- The instant that the form of the engine stands for: minutes are whole, and `Z` says that they are counted in UTC. -/
def ofMinuteText? (s : Text) : Option LocalTime :=
  if s.getLast? = some 'Z' then (ofText (s.dropLast ++ ":00".toList)).toOption else none

theorem hourMinuteText_toMinute (t : LocalTime) : hourMinuteText t.toMinute.second = hourMinuteText t.second := by
  have hhour : t.second / 60 * 60 / 3600 = t.second / 3600 := by omega
  have hminute : t.second / 60 * 60 / 60 % 60 = t.second / 60 % 60 := by omega
  simp only [hourMinuteText, toMinute, hhour, hminute]

theorem wireText_toMinute (t : LocalTime) :
    t.toMinute.wireText = dateText t.day ++ 'T' :: hourMinuteText t.second ++ ":00".toList := by
  have hsecond : t.toMinute.secondOfMinute = 0 := by
    simp only [secondOfMinute, toMinute]
    omega
  rw [wireText, text, hsecond, hourMinuteText_toMinute]
  exact List.append_nil _

theorem minuteText_toMinute (t : LocalTime) : t.toMinute.minuteText = t.minuteText := by
  rw [minuteText, minuteText, hourMinuteText_toMinute]
  rfl

theorem ofMinuteText?_minuteText (t : LocalTime) : ofMinuteText? t.minuteText = some t.toMinute := by
  have hfront : t.minuteText = (dateText t.day ++ 'T' :: hourMinuteText t.second) ++ ['Z'] := by
    rw [minuteText, List.append_assoc, List.cons_append]
  have hread : ofText t.toMinute.wireText = .ok t.toMinute := ofText_wireText (.inl (by decide : 0 < 1000000000))
  rw [ofMinuteText?, hfront, if_pos List.getLast?_concat, List.dropLast_concat, ← wireText_toMinute, hread]
  rfl

end LocalTime

def Markup.Element.attributes : Element → Attributes
  | .empty _ attributes => attributes
  | .text _ attributes _ => attributes
  | .nested _ attributes _ _ => attributes

/-- The instant under a key of an element. -/
def Markup.Element.instant? (key : String) (element : Element) : Option LocalTime :=
  (element.attributes.find? (·.1 == key.toList)).bind fun a => LocalTime.ofMinuteText? a.2

theorem Coordinator.instants_element (coordinator : Coordinator) :
    coordinator.element.instant? "start" = some coordinator.startInstant.toMinute ∧
      coordinator.element.instant? "end" = some coordinator.endInstant.toMinute :=
  ⟨LocalTime.ofMinuteText?_minuteText coordinator.startInstant,
    LocalTime.ofMinuteText?_minuteText coordinator.endInstant⟩

end ImportDispatch
