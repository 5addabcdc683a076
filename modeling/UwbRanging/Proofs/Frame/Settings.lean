import UwbRanging.Frame.Settings
import UwbRanging.Proofs.Wire.Reads

namespace UwbRanging

namespace Setting

-- The settings can be counted, and so can the bytes of each.
def WellFormed (settings : List Setting) : Prop :=
  settings.length ≤ 255 ∧ ∀ s ∈ settings, s.value.length ≤ 255

theorem reads_keys (keys : List UInt16) (hcount : keys.length ≤ 255) :
    ReadsBack readKeys (encodeKeys keys) keys := by
  refine ⟨_, if_neg (by omega), ?_⟩
  exact Reads.countedTimes hcount fun key _ => Reads.u16 key

theorem reads_setting (s : Setting) (hvalue : s.value.length ≤ 255) :
    Reads read (Wire.u16 s.key ++ Wire.counted s.value) s :=
  (Reads.u16 s.key).map₂ (Reads.counted hvalue) Setting.mk

theorem reads_all (settings : List Setting) (hw : WellFormed settings) :
    ReadsBack readAll (encodeAll settings) settings := by
  obtain ⟨hcount, hvalues⟩ := hw
  refine ⟨_, if_neg (by omega), ?_⟩
  exact Reads.countedTimes hcount fun s hs => s.reads_setting (hvalues s hs)

end Setting

namespace SettingsRequest

def WellFormed : SettingsRequest → Prop
  | read keys => keys.length ≤ 255
  | write settings => Setting.WellFormed settings
  | delete keys => keys.length ≤ 255
  | test data => data.length ≤ 255
  | reset _ => True
  | enumerate _ => True
  | salt _ => True

theorem reads_encodeBody (r : SettingsRequest) (hw : r.WellFormed) :
    ReadsBack (readBody r.subtype) r.encodeBody r := by
  cases r with
  | reset magic => exact ⟨_, rfl, (Reads.u16 magic).map reset⟩
  | enumerate iterator => exact ⟨_, rfl, (Reads.u16 iterator).map enumerate⟩
  | read keys => exact (Setting.reads_keys keys hw).map read
  | write settings => exact (Setting.reads_all settings hw).map write
  | delete keys => exact (Setting.reads_keys keys hw).map delete
  | salt bytes => exact ⟨_, rfl, (Reads.octets bytes).map salt⟩
  | test data => exact ⟨_, rfl, (Reads.counted hw).map test⟩

theorem subtype_lt (r : SettingsRequest) : r.subtype < 16 := by
  cases r <;> simp only [subtype] <;> decide

end SettingsRequest

namespace SettingsResponse

def WellFormed : SettingsResponse → Prop
  | enumerate _ keys => keys.length ≤ 255
  | read settings => Setting.WellFormed settings
  | test data => data.length ≤ 255
  | reset _ => True
  | write _ => True
  | delete _ => True
  | salt _ => True

theorem reads_encodeBody (r : SettingsResponse) (hw : r.WellFormed) :
    ReadsBack (readBody r.subtype) r.encodeBody r := by
  cases r with
  | reset magic => exact ⟨_, rfl, (Reads.u16 magic).map reset⟩
  | enumerate iterator keys =>
    obtain ⟨bytes, hbytes, hread⟩ := Setting.reads_keys keys hw
    refine ⟨Wire.u16 iterator ++ bytes, ?_, (Reads.u16 iterator).map₂ hread enumerate⟩
    dsimp only [encodeBody]
    rw [hbytes]
    rfl
  | read settings => exact (Setting.reads_all settings hw).map read
  | write code => exact ⟨_, rfl, (Reads.u8 code).map write⟩
  | delete code => exact ⟨_, rfl, (Reads.u8 code).map delete⟩
  | salt bytes => exact ⟨_, rfl, (Reads.octets bytes).map salt⟩
  | test data => exact ⟨_, rfl, (Reads.counted hw).map test⟩

theorem subtype_lt (r : SettingsResponse) : r.subtype < 16 := by
  cases r <;> simp only [subtype] <;> decide

end SettingsResponse

end UwbRanging
