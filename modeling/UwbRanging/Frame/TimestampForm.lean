import UwbRanging.Frame.Basic
import UwbRanging.Frame.PayloadForm

namespace UwbRanging

instance : ToJson Timespec := ⟨fun t => Json.object [("sec", toJson t.sec), ("nsec", toJson t.nsec)]⟩

instance : ToJson Hires := ⟨fun h => Json.object [("nsec", toJson h.nsec), ("frac", toJson h.frac)]⟩

namespace Diagnostics

-- The names of the fields in their order.
def fieldNames : List String := ["rawts", "lqi", "snr", "fpr", "noise", "rxpacc", "fp_index", "fp_ampl1", "fp_ampl2",
  "fp_ampl3", "cir_pwr", "fp_pwr", "ttcko", "ttcki", "temp", "volt"]

def values (i : Diagnostics) : List Json := [toJson i.rawts, toJson i.lqi, toJson i.snr, toJson i.fpr,
  toJson i.noise, toJson i.rxpacc, toJson i.fpIndex, toJson i.fpAmpl1, toJson i.fpAmpl2, toJson i.fpAmpl3,
  toJson i.cirPwr, toJson i.fpPwr, toJson i.ttcko, toJson i.ttcki, toJson i.temp, toJson i.volt]

def ofValues? : List Json → Option Diagnostics
  | [rawts, lqi, snr, fpr, noise, rxpacc, fpIndex, fpAmpl1, fpAmpl2, fpAmpl3, cirPwr, fpPwr, ttcko, ttcki, temp, volt] => do
    return {
      rawts := ← ofJson? rawts, lqi := ← ofJson? lqi, snr := ← ofJson? snr, fpr := ← ofJson? fpr
      noise := ← ofJson? noise, rxpacc := ← ofJson? rxpacc, fpIndex := ← ofJson? fpIndex
      fpAmpl1 := ← ofJson? fpAmpl1, fpAmpl2 := ← ofJson? fpAmpl2, fpAmpl3 := ← ofJson? fpAmpl3
      cirPwr := ← ofJson? cirPwr, fpPwr := ← ofJson? fpPwr, ttcko := ← ofJson? ttcko, ttcki := ← ofJson? ttcki
      temp := ← ofJson? temp, volt := ← ofJson? volt }
  | _ => none

end Diagnostics

instance : ToJson Diagnostics := ⟨fun i => Json.object (Diagnostics.fieldNames.zip i.values)⟩

-- All fields must be there.
instance : OfJson Diagnostics := ⟨fun j => do
  let fields ← j.fields? Diagnostics.fieldNames
  Diagnostics.ofValues? (← fields.mapM id)⟩

instance : ToJson HardwareTimestamp := ⟨fun ts => Json.object [
  ("sw", toJson ts.sw), ("legacy", toJson ts.legacy), ("hw", toJson ts.hw),
  ("hires", toJson ts.hires), ("info", toJson ts.info)]⟩

instance : ToJson Frame := ⟨fun f => Json.object [
  ("header", toJson f.header), ("payload", toJson f.payload), ("timestamp", toJson f.timestamp)]⟩

end UwbRanging
