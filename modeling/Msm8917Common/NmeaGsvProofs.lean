import Msm8917Common.NmeaGsaProofs
import Msm8917Common.NmeaGsv
import Msm8917Common.Pages

/-! The GSV sentences of a constellation are its satellites, dealt out in fours. Whatever
the `float` values are, no sentence comes near the end of the buffer, so none is dropped. -/
namespace Msm8917Common.LocNmea.Gsv
open Gnss.UsedInFix Pages

def talkerOf : GnssSvType → Text
  | .gps => ['G', 'P']
  | .glonass => ['G', 'L']
  | .galileo => ['G', 'A']
  | .qzss | .beidou | .unknown | .sbas => ['P', 'Q']

def svIdOffsetOf (svType : GnssSvType) : Nat :=
  if svType = .glonass then GLONASS_SV_ID_OFFSET else 0

def signalIdOf : GnssSvType → Nat
  | .gps | .glonass => 1
  | .galileo => 7
  | .qzss | .beidou | .unknown | .sbas => 0

/-- A GSV sentence before it is printed. -/
@[ext] structure Sentence (Float : Type) where
  svType : GnssSvType
  sentenceCount : Nat
  sentenceNumber : Nat
  svCount : Nat
  svs : List (GnssSv Float)

section Printing
variable {Float : Type} (library : FloatLibrary Float)

def satellite (svIdOffset : Nat) (sv : GnssSv Float) : Text :=
  angles library svIdOffset sv ++ strength library sv

def Sentence.headingUnder (talker : Text) (sentence : Sentence Float) : Text :=
  talker ++ "GSV,".toList ++ decimal 0 sentence.sentenceCount ++
    ',' :: decimal 0 sentence.sentenceNumber ++ ',' :: decimal 2 sentence.svCount

def Sentence.heading (sentence : Sentence Float) : Text :=
  sentence.headingUnder (talkerOf sentence.svType)

/-- The sentence as it is printed under a talker, with this offset of the ids and this
signal id. -/
def Sentence.textUnder (talker : Text) (svIdOffset signalId : Nat) (sentence : Sentence Float) :
    Text :=
  '$' :: loc_nmea_put_checksum (sentence.headingUnder talker ++
    sentence.svs.flatMap (satellite library svIdOffset) ++ ',' :: decimal 0 signalId)

def Sentence.text (sentence : Sentence Float) : Text :=
  sentence.textUnder library (talkerOf sentence.svType) (svIdOffsetOf sentence.svType)
    (signalIdOf sentence.svType)

/-- The sentence of a constellation that has no satellites. -/
def blank (svType : GnssSvType) : Text :=
  '$' :: loc_nmea_put_checksum
    (talkerOf svType ++ "GSV,1,1,0".toList ++ ',' :: decimal 0 (signalIdOf svType))

/-- Sentences that list these satellites of one constellation, four in each but the last. -/
structure Enumerates (svType : GnssSvType) (svs : List (GnssSv Float))
    (sentences : List (Sentence Float)) : Prop where
  numbered : sentences.map (·.sentenceNumber) = List.range' 1 ((svs.length + 3) / 4)
  headed : ∀ sentence ∈ sentences, sentence.svType = svType ∧
    sentence.sentenceCount = (svs.length + 3) / 4 ∧ sentence.svCount = svs.length
  full : ∀ sentence ∈ sentences.dropLast, sentence.svs.length = 4
  listed : sentences.flatMap (·.svs) = svs

/-! The bounds are those of the types: 16 bits of an id and 32 bits of an `int`. -/

theorem length_decimal_le {width digits : Nat} {value : Int} (positive : 0 < digits)
    (small : value.natAbs < 10 ^ digits) (wide : width ≤ digits) :
    (decimal width value).length ≤ digits + 1 := by
  have short := (Nat.length_toDigits_le_iff (by omega : 1 < 10) positive).mpr small
  rw [decimal]
  split
  · rw [List.length_cons, List.length_leftpad]
    omega
  · rw [List.length_leftpad]
    omega

theorem natAbs_toInt_lt (value : BitVec 32) : value.toInt.natAbs < 10 ^ 10 := by
  have least := value.le_toInt
  have most := value.toInt_lt
  omega

theorem length_angles_le {svIdOffset : Nat} (small : svIdOffset ≤ 64) (sv : GnssSv Float) :
    (angles library svIdOffset sv).length ≤ 32 := by
  have idBound := sv.svId.isLt
  have id : (decimal 2 (sv.svId.toNat + svIdOffset : Nat)).length ≤ 6 := by
    apply length_decimal_le (by omega)
    · rw [Int.natAbs_natCast]
      omega
    · omega
  have elevation : (decimal 2 (library.rounded sv.elevation).toInt).length ≤ 11 :=
    length_decimal_le (by omega) (natAbs_toInt_lt _) (by omega)
  have azimuth : (decimal 3 (library.rounded sv.azimuth).toInt).length ≤ 11 :=
    length_decimal_le (by omega) (natAbs_toInt_lt _) (by omega)
  simp only [angles, List.length_append, List.length_cons, List.length_nil]
  omega

theorem length_strength_le (sv : GnssSv Float) : (strength library sv).length ≤ 11 := by
  rw [strength]
  split
  · exact length_decimal_le (by omega) (natAbs_toInt_lt _) (by omega)
  · apply Nat.zero_le

theorem length_satellite_le {svIdOffset : Nat} (small : svIdOffset ≤ 64) (sv : GnssSv Float) :
    (satellite library svIdOffset sv).length ≤ 43 := by
  have angles := length_angles_le library small sv
  have strength := length_strength_le library sv
  rw [satellite, List.length_append]
  omega

theorem length_satellites_le {svIdOffset : Nat} (small : svIdOffset ≤ 64)
    (svs : List (GnssSv Float)) :
    (svs.flatMap (satellite library svIdOffset)).length ≤ 43 * svs.length := by
  induction svs with
  | nil => apply Nat.zero_le
  | cons sv svs ih =>
    have one := length_satellite_le library small sv
    rw [List.flatMap_cons, List.length_append, List.length_cons]
    omega

theorem length_put_checksum (body : Text) :
    (loc_nmea_put_checksum body).length = body.length + 5 := by
  have short := (Nat.length_toDigits_le_iff (by omega : 1 < 16) (by omega : 0 < 2)).mpr
    (checksum_lt body (by omega : 0 < 2 ^ 8))
  rw [loc_nmea_put_checksum, twoDigits]
  simp only [List.length_append, List.length_cons, List.length_map, List.length_nil,
    List.length_leftpad]
  omega

theorem length_heading_le {sentence : Sentence Float} (number : sentence.sentenceNumber ≤ 16)
    (count : sentence.sentenceCount ≤ 16) (svs : sentence.svCount ≤ 64) :
    sentence.heading.length ≤ 17 := by
  have two (width : Nat) {number : Nat} (small : number ≤ 64) (wide : width ≤ 2) :
      (decimal width number).length ≤ 3 := by
    apply length_decimal_le (by omega)
    · rw [Int.natAbs_natCast]
      omega
    · exact wide
  have counts := two 0 (by omega : sentence.sentenceCount ≤ 64) (by omega)
  have numbers := two 0 (by omega : sentence.sentenceNumber ≤ 64) (by omega)
  have total := two 2 svs (by omega)
  have talker : (talkerOf sentence.svType).length = 2 := by
    cases sentence.svType <;> rfl
  have tag : "GSV,".toList.length = 4 := rfl
  simp only [Sentence.heading, Sentence.headingUnder, List.length_append, List.length_cons,
    talker, tag]
  omega

theorem svIdOffsetOf_le (svType : GnssSvType) : svIdOffsetOf svType ≤ 64 := by
  rw [svIdOffsetOf]
  split <;> decide

theorem length_signalId (svType : GnssSvType) : (decimal 0 (signalIdOf svType)).length = 1 := by
  cases svType <;> rfl

theorem finish_eq {bufSize signalId : Nat} {body : Text}
    (fits : body.length + (decimal 0 signalId).length + 7 < bufSize) :
    finish bufSize ('$' :: body) signalId =
      '$' :: loc_nmea_put_checksum (body ++ ',' :: decimal 0 signalId) := by
  have uncut (text : Text) (short : text.length < bufSize) : cut bufSize text = text :=
    List.take_of_length_le (by omega)
  have first : cut bufSize ('$' :: body ++ ',' :: decimal 0 signalId) =
      '$' :: (body ++ ',' :: decimal 0 signalId) := by
    apply uncut
    rw [List.length_append, List.length_cons, List.length_cons]
    omega
  rw [finish, first, List.tail_cons]
  apply uncut
  rw [List.length_cons, length_put_checksum, List.length_append, List.length_cons]
  omega

end Printing

section Loops
variable {Float : Type} (library : FloatLibrary Float)

/-- The satellites of one constellation, in their order. -/
def ofType (svType : GnssSvType) (gnssSvs : List (GnssSv Float)) : List (GnssSv Float) :=
  gnssSvs.filter (·.type = svType)

theorem ofType_cons_own {svType : GnssSvType} {sv : GnssSv Float} (own : sv.type = svType)
    (gnssSvs : List (GnssSv Float)) :
    ofType svType (sv :: gnssSvs) = sv :: ofType svType gnssSvs :=
  List.filter_cons_of_pos (decide_eq_true own)

theorem ofType_cons_foreign {svType : GnssSvType} {sv : GnssSv Float} (foreign : sv.type ≠ svType)
    (gnssSvs : List (GnssSv Float)) : ofType svType (sv :: gnssSvs) = ofType svType gnssSvs :=
  List.filter_cons_of_neg (by simpa using foreign)

/-- The talker, the offset and the signal id are those of the type. -/
structure Labelled (sv_meta : loc_nmea_sv_meta) : Prop where
  talker : sv_meta.talker = talkerOf sv_meta.svType
  svIdOffset : sv_meta.svIdOffset = svIdOffsetOf sv_meta.svType
  signalId : sv_meta.signalId = signalIdOf sv_meta.svType

theorem print_eq {bufSize : Nat} {sentence piece : Text}
    (fits : sentence.length + piece.length < bufSize) :
    print bufSize sentence piece = some (sentence ++ piece) := if_pos fits

/-- A satellite of the constellation that fits is printed whole. -/
theorem svLoop_own {sv_meta : loc_nmea_sv_meta} {bufSize i : Nat} {sentence : Text}
    {sv : GnssSv Float} (gnssSvs : List (GnssSv Float)) (inside : i < 4)
    (own : sv.type = sv_meta.svType)
    (fits : sentence.length + (satellite library sv_meta.svIdOffset sv).length < bufSize) :
    svLoop library sv_meta bufSize (sv :: gnssSvs) i sentence =
      svLoop library sv_meta bufSize gnssSvs (i + 1)
        (sentence ++ satellite library sv_meta.svIdOffset sv) := by
  rw [satellite, List.length_append] at fits
  have first : print bufSize sentence (angles library sv_meta.svIdOffset sv) =
      some (sentence ++ angles library sv_meta.svIdOffset sv) := print_eq (by omega)
  rw [svLoop, if_pos inside, if_pos own.symm, first, Option.bind_eq_bind, Option.bind_some]
  by_cases positive : library.positive sv.cN0Dbhz = true
  · rw [if_pos positive, print_eq (by rw [List.length_append]; omega), Option.bind_some,
      List.append_assoc, satellite]
  · have none : strength library sv = [] := if_neg positive
    rw [if_neg positive, Option.bind_some, satellite, none, List.append_nil]

/-- One sentence takes the next satellites of its constellation, up to four with those that
it has, and leaves all others of the constellation to the next. -/
theorem svLoop_eq {sv_meta : loc_nmea_sv_meta} {bufSize : Nat} (offset : sv_meta.svIdOffset ≤ 64)
    (gnssSvs : List (GnssSv Float)) (i : Nat) (sentence : Text)
    (room : sentence.length + 43 * (4 - i) < bufSize) :
    ∃ left, svLoop library sv_meta bufSize gnssSvs i sentence =
        some (sentence ++ ((ofType sv_meta.svType gnssSvs).take (4 - i)).flatMap
          (satellite library sv_meta.svIdOffset), left) ∧
      ofType sv_meta.svType left = (ofType sv_meta.svType gnssSvs).drop (4 - i) := by
  induction gnssSvs generalizing i sentence with
  | nil =>
    refine ⟨[], ?_, ?_⟩
    · simp only [svLoop, ofType, List.filter_nil, List.take_nil, List.flatMap_nil, List.append_nil]
    · simp only [ofType, List.filter_nil, List.drop_nil]
  | cons sv gnssSvs ih =>
    by_cases inside : i < 4
    · by_cases own : sv.type = sv_meta.svType
      · have kept := ofType_cons_own own gnssSvs
        have toGo : 4 - i = (4 - (i + 1)) + 1 := by omega
        have short := length_satellite_le library offset sv
        rw [svLoop_own library gnssSvs inside own (by omega)]
        obtain ⟨left, ran, rest⟩ := ih (i + 1)
          (sentence ++ satellite library sv_meta.svIdOffset sv)
          (by rw [List.length_append]; omega)
        refine ⟨left, ?_, ?_⟩
        · rw [ran, kept, toGo, List.take_succ_cons, List.flatMap_cons, List.append_assoc]
        · rw [rest, kept, toGo, List.drop_succ_cons]
      · have skipped := ofType_cons_foreign own gnssSvs
        rw [svLoop, if_pos inside, if_neg (Ne.symm own), skipped]
        exact ih i sentence room
    · have full : 4 - i = 0 := by omega
      refine ⟨sv :: gnssSvs, ?_, ?_⟩
      · rw [svLoop, if_neg inside, full, List.take_zero, List.flatMap_nil, List.append_nil]
      · rw [full, List.drop_zero]

/-- The sentences with this many of them to go. -/
def sentencesFrom (svType : GnssSvType) (sentenceCount svCount toGo : Nat)
    (svs : List (GnssSv Float)) : List (Sentence Float) :=
  ((List.range' (sentenceCount - toGo + 1) toGo).zip (pages 4 toGo svs)).map
    fun (sentenceNumber, page) => ⟨svType, sentenceCount, sentenceNumber, svCount, page⟩

theorem sentenceLoop_eq {sv_meta : loc_nmea_sv_meta} (labelled : Labelled sv_meta)
    {sentenceCount : Nat} (few : sentenceCount ≤ 16) (count : sv_meta.svCount ≤ 64) {toGo : Nat}
    (within : toGo ≤ sentenceCount) (gnssSvs : List (GnssSv Float)) (nmeaArraystr : List Text) :
    sentenceLoop library sv_meta NMEA_SENTENCE_MAX_LENGTH sentenceCount toGo gnssSvs nmeaArraystr =
      nmeaArraystr ++ (sentencesFrom sv_meta.svType sentenceCount sv_meta.svCount toGo
        (ofType sv_meta.svType gnssSvs)).map (Sentence.text library) := by
  have offset : sv_meta.svIdOffset ≤ 64 := labelled.svIdOffset ▸ svIdOffsetOf_le sv_meta.svType
  induction toGo generalizing gnssSvs nmeaArraystr with
  | zero => exact (List.append_nil nmeaArraystr).symm
  | succ toGo ih =>
    -- The sentence that this turn prints.
    let sentence : Sentence Float := ⟨sv_meta.svType, sentenceCount, sentenceCount - toGo,
      sv_meta.svCount, (ofType sv_meta.svType gnssSvs).take 4⟩
    have short : sentence.heading.length ≤ 17 :=
      length_heading_le (by show sentenceCount - toGo ≤ 16; omega) few count
    have heading : print NMEA_SENTENCE_MAX_LENGTH [] ('$' :: sv_meta.talker ++ "GSV,".toList ++
        decimal 0 sentenceCount ++ ',' :: decimal 0 (sentenceCount - toGo : Nat) ++
        ',' :: decimal 2 sv_meta.svCount) = some ('$' :: sentence.heading) := by
      rw [labelled.talker]
      apply print_eq
      show 0 + ('$' :: sentence.heading).length < 200
      rw [List.length_cons]
      omega
    have room : ('$' :: sentence.heading).length + 43 * (4 - 0) < NMEA_SENTENCE_MAX_LENGTH := by
      rw [List.length_cons, NMEA_SENTENCE_MAX_LENGTH]
      omega
    obtain ⟨left, ran, rest⟩ := svLoop_eq library offset gnssSvs 0 ('$' :: sentence.heading) room
    have listed : sentence.svs.length ≤ 4 := List.length_take_le 4 _
    have satellites := length_satellites_le library offset sentence.svs
    have one : (decimal 0 sv_meta.signalId).length = 1 :=
      labelled.signalId ▸ length_signalId sv_meta.svType
    have finished : finish NMEA_SENTENCE_MAX_LENGTH ('$' :: (sentence.heading ++
        sentence.svs.flatMap (satellite library sv_meta.svIdOffset))) sv_meta.signalId =
        sentence.text library := by
      rw [finish_eq, labelled.svIdOffset, labelled.signalId]
      · rfl
      · rw [List.length_append, NMEA_SENTENCE_MAX_LENGTH]
        omega
    have number : sentenceCount - (toGo + 1) + 1 = sentenceCount - toGo := by omega
    have pushed : sentencesFrom sv_meta.svType sentenceCount sv_meta.svCount (toGo + 1)
        (ofType sv_meta.svType gnssSvs) = sentence :: sentencesFrom sv_meta.svType sentenceCount
          sv_meta.svCount toGo (ofType sv_meta.svType left) := by
      rw [sentencesFrom, number, List.range'_succ, pages, List.zip_cons_cons, List.map_cons, rest]
      rfl
    rw [sentenceLoop, heading]
    simp only [Option.bind_eq_bind, Option.bind_some, ran, Nat.sub_zero]
    rw [ih (by omega), pushed, List.map_cons, ← finished, List.append_assoc]
    rfl

/-- All sentences of a constellation. -/
def sentencesOf (svType : GnssSvType) (svs : List (GnssSv Float)) : List (Sentence Float) :=
  sentencesFrom svType ((svs.length + 3) / 4) svs.length ((svs.length + 3) / 4) svs

/-- The satellites of the sentences are the pages of four. -/
theorem svs_sentencesFrom (svType : GnssSvType) (sentenceCount svCount toGo : Nat)
    (svs : List (GnssSv Float)) :
    (sentencesFrom svType sentenceCount svCount toGo svs).map (·.svs) = pages 4 toGo svs := by
  rw [sentencesFrom, List.map_map]
  apply List.map_snd_zip
  rw [length_pages, List.length_range']

theorem enumerates_sentencesOf (svType : GnssSvType) (svs : List (GnssSv Float)) :
    Enumerates svType svs (sentencesOf svType svs) := by
  refine ⟨?_, ?_, ?_, ?_⟩
  · rw [sentencesOf, sentencesFrom, List.map_map, Nat.sub_self]
    apply List.map_fst_zip
    rw [length_pages, List.length_range']
  · intro sentence member
    obtain ⟨pair, _, rfl⟩ := List.mem_map.mp member
    exact ⟨rfl, rfl, rfl⟩
  · intro sentence member
    have page : sentence.svs ∈ (sentencesOf svType svs).dropLast.map (·.svs) :=
      List.mem_map_of_mem member
    rw [List.map_dropLast, sentencesOf, svs_sentencesFrom] at page
    exact full_of_mem_dropLast (mul_ceil_sub_one_le svs.length (by omega)) page
  · rw [List.flatMap_def, sentencesOf, svs_sentencesFrom]
    exact flatten_pages (le_mul_ceil svs.length (by omega))

end Loops

section Report
variable {Float : Type} (library : FloatLibrary Float) (undefinedShift : Int → BitVec 32)
  (svNotify : GnssSvNotification Float)

def svsOf (svType : GnssSvType) : List (GnssSv Float) := ofType svType svNotify.gnssSvs

def loc_sv_cache_info.count (sv_cache_info : loc_sv_cache_info) : GnssSvType → Nat
  | .gps => sv_cache_info.gps_count
  | .glonass => sv_cache_info.glo_count
  | .galileo => sv_cache_info.gal_count
  | .qzss => sv_cache_info.qzss_count
  | .beidou => sv_cache_info.bds_count
  | .unknown | .sbas => 0

theorem count_countSv (sv_cache_info : loc_sv_cache_info) (sv : GnssSv Float)
    {svType : GnssSvType} (member : svType ∈ constellations) :
    (countSv undefinedShift sv_cache_info sv).count svType =
      sv_cache_info.count svType + if sv.type = svType then 1 else 0 := by
  rw [countSv]
  rcases mem_constellations.mp member with rfl | rfl | rfl | rfl | rfl <;>
    cases sv.type <;> rfl

theorem count_counted {svType : GnssSvType} (member : svType ∈ constellations) :
    (counted undefinedShift svNotify).count svType = (svsOf svNotify svType).length := by
  have counts (gnssSvs : List (GnssSv Float)) (sv_cache_info : loc_sv_cache_info) :
      (gnssSvs.foldl (countSv undefinedShift) sv_cache_info).count svType =
        sv_cache_info.count svType + (ofType svType gnssSvs).length := by
    induction gnssSvs generalizing sv_cache_info with
    | nil => rfl
    | cons sv gnssSvs ih =>
      rw [List.foldl_cons, ih, count_countSv undefinedShift sv_cache_info sv member]
      by_cases own : sv.type = svType
      · rw [if_pos own, ofType_cons_own own, List.length_cons]
        omega
      · rw [if_neg own, ofType_cons_foreign own]
        omega
  have none : loc_sv_cache_info.count ⟨⟨0, 0, 0, 0, 0⟩, 0, 0, 0, 0, 0⟩ svType = 0 := by
    cases svType <;> rfl
  rw [counted, counts, none, Nat.zero_add, svsOf]

theorem sv_meta_of {svType : GnssSvType} (member : svType ∈ constellations) :
    ∃ sv_meta, loc_nmea_sv_meta_init (counted undefinedShift svNotify) svType false =
        some sv_meta ∧ sv_meta.svType = svType ∧
      sv_meta.svCount = (svsOf svNotify svType).length ∧ Labelled sv_meta := by
  rw [← count_counted undefinedShift svNotify member]
  rcases mem_constellations.mp member with rfl | rfl | rfl | rfl | rfl <;>
    exact ⟨_, rfl, rfl, rfl, rfl, rfl, rfl⟩

/-- The texts of one constellation. -/
def textsOf (svType : GnssSvType) : List Text :=
  if svsOf svNotify svType = [] then [blank svType]
  else (sentencesOf svType (svsOf svNotify svType)).map (Sentence.text library)

theorem length_svsOf_le (svType : GnssSvType) : (svsOf svNotify svType).length ≤ 64 :=
  (List.length_filter_le _ _).trans svNotify.count_le

theorem addGSV_eq {svType : GnssSvType} (member : svType ∈ constellations)
    (nmeaArraystr : List Text) :
    addGSV library undefinedShift svNotify nmeaArraystr svType =
      nmeaArraystr ++ textsOf library svNotify svType := by
  obtain ⟨sv_meta, found, own, count, labelled⟩ := sv_meta_of undefinedShift svNotify member
  have most := length_svsOf_le svNotify svType
  rw [addGSV, found]
  show loc_nmea_generate_GSV library svNotify NMEA_SENTENCE_MAX_LENGTH sv_meta nmeaArraystr = _
  rw [loc_nmea_generate_GSV, if_neg (by decide), textsOf]
  by_cases none : svsOf svNotify svType = []
  · have signal : (decimal 0 sv_meta.signalId).length = 1 :=
      labelled.signalId ▸ length_signalId sv_meta.svType
    have talker : (talkerOf sv_meta.svType ++ "GSV,1,1,0".toList).length = 11 := by
      cases sv_meta.svType <;> rfl
    have finished : finish NMEA_SENTENCE_MAX_LENGTH
        ('$' :: (talkerOf sv_meta.svType ++ "GSV,1,1,0".toList)) sv_meta.signalId =
        blank sv_meta.svType := by
      rw [finish_eq, blank, labelled.signalId]
      rw [talker, signal]
      decide
    rw [if_pos none, if_pos (by rw [count, none]; rfl), labelled.talker, ← own, ← finished]
    rfl
  · have positive := List.length_pos_iff.mpr none
    have ceil : sv_meta.svCount / 4 + (if sv_meta.svCount % 4 ≠ 0 then 1 else 0) =
        ((svsOf svNotify svType).length + 3) / 4 := by
      rw [count]
      split <;> omega
    rw [if_neg none, if_neg (by rw [count]; omega), ceil,
      sentenceLoop_eq library labelled (by omega) (by omega) (Nat.le_refl _), own, count]
    rfl

theorem generate_sv_eq (nmeaArraystr : List Text) :
    loc_nmea_generate_sv library undefinedShift svNotify nmeaArraystr =
      nmeaArraystr ++ constellations.flatMap (textsOf library svNotify) := by
  have adds := forall_constellations.mp fun _ member =>
    addGSV_eq library undefinedShift svNotify member
  obtain ⟨gps, glonass, galileo, qzss, beidou⟩ := adds
  simp only [loc_nmea_generate_sv, gps, glonass, galileo, qzss, beidou, constellations,
    List.flatMap_cons, List.flatMap_nil, List.append_nil, List.append_assoc]

theorem length_text_lt {svType : GnssSvType} {svs : List (GnssSv Float)}
    (few : svs.length ≤ 64) {sentence : Sentence Float}
    (member : sentence ∈ sentencesOf svType svs) :
    (sentence.text library).length < NMEA_SENTENCE_MAX_LENGTH := by
  have enumerates := enumerates_sentencesOf svType svs
  obtain ⟨_, count, total⟩ := enumerates.headed sentence member
  have number : sentence.sentenceNumber ∈ List.range' 1 ((svs.length + 3) / 4) :=
    enumerates.numbered ▸ List.mem_map_of_mem member
  rw [List.mem_range'_1] at number
  have page : sentence.svs ∈ pages 4 ((svs.length + 3) / 4) svs :=
    svs_sentencesFrom svType _ svs.length _ svs ▸ List.mem_map_of_mem member
  have listed := length_le_of_mem page
  have heading : (sentence.headingUnder (talkerOf sentence.svType)).length ≤ 17 :=
    length_heading_le (by omega) (by omega) (by omega)
  have satellites :=
    length_satellites_le library (svIdOffsetOf_le sentence.svType) sentence.svs
  rw [Sentence.text, Sentence.textUnder, List.length_cons, length_put_checksum, List.length_append,
    List.length_append, List.length_cons, length_signalId, NMEA_SENTENCE_MAX_LENGTH]
  omega

/-- Each of the five constellations has its sentences, in which its satellites are, or a
blank one. There are no others, so satellites of other types are in none. -/
theorem sentences_enumerate_the_satellites (library : FloatLibrary Float)
    (undefinedShift : Int → BitVec 32) (svNotify : GnssSvNotification Float)
    (nmeaArraystr : List Text) :
    ∃ sentences : GnssSvType → List (Sentence Float),
      (∀ svType, Enumerates svType (svsOf svNotify svType) (sentences svType)) ∧
      (∀ svType, ∀ sentence ∈ sentences svType,
        (sentence.text library).length < NMEA_SENTENCE_MAX_LENGTH) ∧
      loc_nmea_generate_sv library undefinedShift svNotify nmeaArraystr =
        nmeaArraystr ++ constellations.flatMap fun svType =>
          if svsOf svNotify svType = [] then [blank svType]
          else (sentences svType).map (Sentence.text library) := by
  refine ⟨fun svType => sentencesOf svType (svsOf svNotify svType), ?_, ?_, ?_⟩
  · exact fun svType => enumerates_sentencesOf svType _
  · exact fun svType sentence member =>
      length_text_lt library (length_svsOf_le svNotify svType) member
  · exact generate_sv_eq library undefinedShift svNotify nmeaArraystr

/-- A library in which nothing is positive and all is rounded to zero. -/
def noFloats : FloatLibrary Unit := ⟨fun _ => false, fun _ => 0⟩

def sbasOnly : GnssSvNotification Unit := ⟨[⟨120, .sbas, (), (), (), 0⟩], by decide⟩

/-- Under no talker at all. -/
theorem an_sbas_satellite_is_in_no_sentence :
    ¬ ∃ (talker : GnssSvType → Text) (svIdOffset signalId : GnssSvType → Nat), ∀ svType,
      0 < (svsOf sbasOnly svType).length → ∃ sentences,
        Enumerates svType (svsOf sbasOnly svType) sentences ∧
        ∀ sentence ∈ sentences,
          sentence.textUnder noFloats (talker svType) (svIdOffset svType) (signalId svType) ∈
            loc_nmea_generate_sv noFloats (fun _ => 0) sbasOnly [] := by
  rintro ⟨talker, svIdOffset, signalId, claimed⟩
  obtain ⟨sentences, ⟨numbered, headed, _, listed⟩, printed⟩ := claimed .sbas (by decide)
  -- There is one sentence, and all that it says is given.
  rcases sentences with _ | ⟨sentence, _ | ⟨other, others⟩⟩
  · cases numbered
  · obtain ⟨type, count, total⟩ := headed sentence List.mem_cons_self
    have number : sentence.sentenceNumber = 1 := (List.cons.inj numbered).1
    have svs : sentence.svs = sbasOnly.gnssSvs := (List.append_nil _).symm.trans listed
    have expected : sentence = ⟨.sbas, 1, 1, 1, sbasOnly.gnssSvs⟩ :=
      Sentence.ext type count number total svs
    have member := printed sentence List.mem_cons_self
    -- The five sentences that go out are blank, and too short to have a satellite.
    have short : ∀ text ∈ loc_nmea_generate_sv noFloats (fun _ => 0) sbasOnly [],
        text.length ≤ 20 := by
      decide
    have fits := short _ member
    have tag : "GSV,".toList.length = 4 := rfl
    have one : (decimal 0 (1 : Nat)).length = 1 := rfl
    have padded : (decimal 2 (1 : Nat)).length = 2 := rfl
    simp only [expected, Sentence.textUnder, Sentence.headingUnder, sbasOnly, satellite, angles,
      List.flatMap_cons, List.flatMap_nil, List.length_cons, length_put_checksum,
      List.length_append, List.length_nil, tag, one, padded] at fits
    omega
  · exact absurd (List.cons.inj numbered).2 (List.cons_ne_nil _ _)

end Report
end Msm8917Common.LocNmea.Gsv
