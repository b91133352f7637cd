import JVLinkServer.Records.RaceParsers

namespace JVLinkServer.Records

/-! # The parsers of master records -/

def gradedWin : List Slice :=
  [.text "race_key" 0 16, .text "race_name_main" 16 60, .text "race_short_name_10" 76 20,
   .text "race_short_name_6" 96 12, .text "race_short_name_3" 108 6, .text "grade_code" 114 1,
   .text "num_starters" 115 2, .text "pedigree_reg_num" 117 10, .text "horse_name" 127 36]

/-- The counts of a jockey or a trainer in one year. -/
def riderStats : List Slice :=
  [.text "year" 0 4, .text "flat_prize_money" 4 10, .text "steeplechase_prize_money" 14 10,
   .text "flat_added_money" 24 10, .text "steeplechase_added_money" 34 10,
   .array "flat_placing_counts" 44 6 6, .array "steeplechase_placing_counts" 80 6 6,
   .array "sapporo_flat_placing_counts" 116 6 6,
   .array "sapporo_steeplechase_placing_counts" 152 6 6,
   .array "hakodate_flat_placing_counts" 188 6 6,
   .array "hakodate_steeplechase_placing_counts" 224 6 6,
   .array "fukushima_flat_placing_counts" 260 6 6,
   .array "fukushima_steeplechase_placing_counts" 296 6 6,
   .array "niigata_flat_placing_counts" 332 6 6,
   .array "niigata_steeplechase_placing_counts" 368 6 6,
   .array "tokyo_flat_placing_counts" 404 6 6, .array "tokyo_steeplechase_placing_counts" 440 6 6,
   .array "nakayama_flat_placing_counts" 476 6 6,
   .array "nakayama_steeplechase_placing_counts" 512 6 6,
   .array "chukyo_flat_placing_counts" 548 6 6,
   .array "chukyo_steeplechase_placing_counts" 584 6 6,
   .array "kyoto_flat_placing_counts" 620 6 6, .array "kyoto_steeplechase_placing_counts" 656 6 6,
   .array "hanshin_flat_placing_counts" 692 6 6,
   .array "hanshin_steeplechase_placing_counts" 728 6 6,
   .array "kokura_flat_placing_counts" 764 6 6,
   .array "kokura_steeplechase_placing_counts" 800 6 6,
   .array "turf_class_d_placing_counts" 836 6 6, .array "turf_class_e_placing_counts" 872 6 6,
   .array "turf_gt2200_placing_counts" 908 6 6, .array "dirt_class_d_placing_counts" 944 6 6,
   .array "dirt_class_e_placing_counts" 980 6 6, .array "dirt_gt2200_placing_counts" 1016 6 6]

def parseUMFields : List Statement :=
  withHeader
    [.text "pedigree_reg_num" 11 10, .text "deregistration_flag" 21 1,
     .text "registration_date" 22 8, .text "deregistration_date" 30 8, .text "birth_date" 38 8,
     .text "horse_name" 46 36, .text "horse_name_kana" 82 36, .text "horse_name_english" 118 60,
     .text "jra_facility_flag" 178 1, .text "horse_symbol_code" 198 2, .text "sex_code" 200 1,
     .text "breed_code" 201 1, .text "coat_color_code" 202 2,
     .objects "pedigree_3gen" 204 46 14 .never
      [.text "breeding_reg_num" 0 10, .text "horse_name" 10 36],
     .text "affiliation_code" 848 1, .text "trainer_code" 849 5, .text "trainer_name_short" 854 8,
     .text "invitation_area_name" 862 20, .text "breeder_code" 882 8, .text "breeder_name" 890 72,
     .text "birthplace_name" 962 20, .text "owner_code" 982 6, .text "owner_name" 988 64,
     .text "flat_prize_money_total" 1052 9, .text "steeplechase_prize_money_total" 1061 9,
     .text "flat_added_money_total" 1070 9, .text "steeplechase_added_money_total" 1079 9,
     .text "flat_earnings_total" 1088 9, .text "steeplechase_earnings_total" 1097 9,
     .array "overall_placing_counts" 1106 3 6, .array "central_placing_counts" 1124 3 6,
     .array "turf_straight_placing_counts" 1142 3 6, .array "turf_right_placing_counts" 1160 3 6,
     .array "turf_left_placing_counts" 1178 3 6, .array "dirt_straight_placing_counts" 1196 3 6,
     .array "dirt_right_placing_counts" 1214 3 6, .array "dirt_left_placing_counts" 1232 3 6,
     .array "steeplechase_placing_counts" 1250 3 6, .array "turf_good_placing_counts" 1268 3 6,
     .array "turf_slightly_heavy_placing_counts" 1286 3 6,
     .array "turf_heavy_placing_counts" 1304 3 6, .array "turf_bad_placing_counts" 1322 3 6,
     .array "dirt_good_placing_counts" 1340 3 6,
     .array "dirt_slightly_heavy_placing_counts" 1358 3 6,
     .array "dirt_heavy_placing_counts" 1376 3 6, .array "dirt_bad_placing_counts" 1394 3 6,
     .array "steeplechase_good_placing_counts" 1412 3 6,
     .array "steeplechase_slightly_heavy_placing_counts" 1430 3 6,
     .array "steeplechase_heavy_placing_counts" 1448 3 6,
     .array "steeplechase_bad_placing_counts" 1466 3 6,
     .array "turf_short_placing_counts" 1484 3 6, .array "turf_mid_placing_counts" 1502 3 6,
     .array "turf_long_placing_counts" 1520 3 6, .array "dirt_short_placing_counts" 1538 3 6,
     .array "dirt_mid_placing_counts" 1556 3 6, .array "dirt_long_placing_counts" 1574 3 6,
     .array "running_style_counts" 1592 3 4, .text "registered_race_count" 1604 3]

def parseKSFields : List Statement :=
  withHeader
    [.text "jockey_code" 11 5, .text "deregistration_flag" 16 1, .text "license_issue_date" 17 8,
     .text "license_revoked_date" 25 8, .text "birth_date" 33 8, .text "jockey_name" 41 34,
     .text "jockey_name_kana" 109 30, .text "jockey_name_short" 139 8,
     .text "jockey_name_english" 147 80, .text "sex_code" 227 1,
     .text "riding_qualification_code" 228 1, .text "jockey_apprentice_code" 229 1,
     .text "affiliation_code" 230 1, .text "invitation_area_name" 231 20,
     .text "affiliated_trainer_code" 251 5, .text "affiliated_trainer_name_short" 256 8,
     .objects "first_ride_info" 264 67 2 (.spaces 16)
      [.text "race_key" 0 16, .text "num_starters" 16 2, .text "pedigree_reg_num" 18 10,
       .text "horse_name" 28 36, .text "confirmed_placing" 64 2, .text "abnormality_code" 66 1],
     .objects "first_win_info" 398 64 2 (.spaces 16)
      [.text "race_key" 0 16, .text "num_starters" 16 2, .text "pedigree_reg_num" 18 10,
       .text "horse_name" 28 36],
     .objects "recent_graded_wins" 526 163 3 .never gradedWin,
     .objects "performance_stats" 1015 1052 3 .never riderStats]

def parseCHFields : List Statement :=
  withHeader
    [.text "trainer_code" 11 5, .text "deregistration_flag" 16 1, .text "license_issue_date" 17 8,
     .text "license_revoked_date" 25 8, .text "birth_date" 33 8, .text "trainer_name" 41 34,
     .text "trainer_name_kana" 75 30, .text "trainer_name_short" 105 8,
     .text "trainer_name_english" 113 80, .text "sex_code" 193 1, .text "affiliation_code" 194 1,
     .text "invitation_area_name" 195 20,
     .objects "recent_graded_wins" 215 163 3 .never gradedWin,
     .objects "performance_stats" 704 1052 3 .never riderStats]

def parseBRFields : List Statement :=
  withHeader
    [.text "breeder_code" 11 8, .text "breeder_name_with_corp" 19 72, .text "breeder_name" 91 72,
     .text "breeder_name_kana" 163 72, .text "breeder_name_english" 235 168,
     .text "address" 403 20,
     .objects "performance_stats" 423 60 2 .never ownerStats]

def parseBNFields : List Statement :=
  withHeader
    [.text "owner_code" 11 6, .text "owner_name_with_corp" 17 64, .text "owner_name" 81 64,
     .text "owner_name_kana" 145 50, .text "owner_name_english" 195 100,
     .text "silk_colors_code" 295 60,
     .objects "performance_stats" 355 60 2 .never ownerStats]

def parseHNFields : List Statement :=
  withHeader
    [.text "breeding_reg_num" 11 10, .text "pedigree_reg_num" 29 10, .text "horse_name" 40 36,
     .text "horse_name_kana" 76 40, .text "horse_name_english" 116 80, .text "birth_year" 196 4,
     .text "sex_code" 200 1, .text "breed_code" 201 1, .text "coat_color_code" 202 2,
     .text "import_code" 204 1, .text "import_year" 205 4, .text "birthplace_name" 209 20,
     .text "sire_breeding_reg_num" 229 10, .text "dam_breeding_reg_num" 239 10]

def parseSKFields : List Statement :=
  withHeader
    [.text "pedigree_reg_num" 11 10, .text "birth_date" 21 8, .text "sex_code" 29 1,
     .text "breed_code" 30 1, .text "coat_color_code" 31 2, .text "import_code" 33 1,
     .text "import_year" 34 4, .text "breeder_code" 38 8, .text "birthplace_name" 46 20,
     .array "three_gen_pedigree_breeding_reg_nums" 66 10 14]

def parseRCFields : List Statement :=
  withHeader
    [.text "record_identification_code" 11 1, .text "meet_year" 12 4, .text "meet_date" 16 4,
     .text "racecourse_code" 20 2, .text "meet_round" 22 2, .text "meet_day" 24 2,
     .text "race_number" 26 2, .text "special_race_number" 28 4, .text "race_name_main" 32 60,
     .text "grade_code" 92 1, .text "race_type_code" 93 2, .text "distance" 95 4,
     .text "track_code" 99 2, .text "record_type_code" 101 1, .text "record_time" 102 4,
     .text "weather_code" 106 1, .text "turf_track_condition_code" 107 1,
     .text "dirt_track_condition_code" 108 1,
     .objects "record_holders" 109 130 3 .never
      [.text "pedigree_reg_num" 0 10, .text "horse_name" 10 36, .text "horse_symbol_code" 46 2,
       .text "sex_code" 48 1, .text "trainer_code" 49 5, .text "trainer_name" 54 34,
       .text "impost_weight" 88 3, .text "jockey_code" 91 5, .text "jockey_name" 96 34]]

def parseHCFields : List Statement :=
  withHeader
    [.text "training_center_code" 11 1, .text "training_date" 12 8, .text "training_time" 20 4,
     .text "pedigree_reg_num" 24 10, .text "total_time_4f" 34 4, .text "lap_time_800_600" 38 3,
     .text "total_time_3f" 41 4, .text "lap_time_600_400" 45 3, .text "total_time_2f" 48 4,
     .text "lap_time_400_200" 52 3, .text "lap_time_200_0" 55 3]

def parseHSFields : List Statement :=
  withHeader
    [.text "pedigree_reg_num" 11 10, .text "sire_breeding_reg_num" 21 10,
     .text "dam_breeding_reg_num" 31 10, .text "birth_year" 41 4, .text "market_code" 45 6,
     .text "organizer_name" 51 40, .text "market_name" 91 80, .text "market_start_date" 171 8,
     .text "market_end_date" 179 8, .text "horse_age_at_trade" 187 1, .text "trade_price" 188 10]

def parseHYFields : List Statement :=
  withHeader
    [.text "pedigree_reg_num" 11 10, .text "horse_name" 21 36, .text "horse_name_meaning" 57 64]

def parseYSFields : List Statement :=
  withHeader
    [.text "meet_year" 11 4, .text "meet_date" 15 4, .text "racecourse_code" 19 2,
     .text "meet_round" 21 2, .text "meet_day" 23 2, .text "weekday_code" 25 1,
     .objects "graded_race_guide" 26 118 3 .never
      [.text "special_race_number" 0 4, .text "race_name_main" 4 60,
       .text "race_short_name_10" 64 20, .text "race_short_name_6" 84 12,
       .text "race_short_name_3" 96 6, .text "graded_race_round_number" 102 3,
       .text "grade_code" 105 1, .text "race_type_code" 106 2, .text "race_symbol_code" 108 3,
       .text "weight_type_code" 111 1, .text "distance" 112 4, .text "track_code" 116 2]]

def parseBTFields : List Statement :=
  withHeader
    [.text "breeding_reg_num" 11 10, .text "lineage_id" 21 30, .text "lineage_name" 51 36,
     .text "lineage_description" 87 6800]

def parseCSFields : List Statement :=
  withHeader
    [.text "racecourse_code" 11 2, .text "distance" 13 4, .text "track_code" 17 2,
     .text "course_revision_date" 19 8, .text "course_description" 27 6800]

def parseWCFields : List Statement :=
  withHeader
    [.text "training_center_code" 11 1, .text "training_date" 12 8, .text "training_time" 20 4,
     .text "pedigree_reg_num" 24 10, .text "course" 34 1, .text "track_direction" 35 1,
     .text "total_time_10f" 37 4, .text "lap_time_2000_1800" 41 3, .text "total_time_9f" 44 4,
     .text "lap_time_1800_1600" 48 3, .text "total_time_8f" 51 4, .text "lap_time_1600_1400" 55 3,
     .text "total_time_7f" 58 4, .text "lap_time_1400_1200" 62 3, .text "total_time_6f" 65 4,
     .text "lap_time_1200_1000" 69 3, .text "total_time_5f" 72 4, .text "lap_time_1000_800" 76 3,
     .text "total_time_4f" 79 4, .text "lap_time_800_600" 83 3, .text "total_time_3f" 86 4,
     .text "lap_time_600_400" 90 3, .text "total_time_2f" 93 4, .text "lap_time_400_200" 97 3,
     .text "lap_time_200_0" 100 3]

/-- `RecordParser::parseBasicFields` -/
def statementsOf : RecordType → List Statement
  | .unknown => []
  | .tk => parseTKFields
  | .ra => parseRAFields
  | .se => parseSEFields
  | .hr => parseHRFields
  | .h1 => parseH1Fields
  | .h6 => parseH6Fields
  | .o1 => parseO1Fields
  | .o2 => parseO2Fields
  | .o3 => parseO3Fields
  | .o4 => parseO4Fields
  | .o5 => parseO5Fields
  | .o6 => parseO6Fields
  | .um => parseUMFields
  | .ks => parseKSFields
  | .ch => parseCHFields
  | .br => parseBRFields
  | .bn => parseBNFields
  | .hn => parseHNFields
  | .sk => parseSKFields
  | .ck => parseCKFields
  | .rc => parseRCFields
  | .hc => parseHCFields
  | .hs => parseHSFields
  | .hy => parseHYFields
  | .ys => parseYSFields
  | .bt => parseBTFields
  | .cs => parseCSFields
  | .dm => parseDMFields
  | .tm => parseTMFields
  | .wf => parseWFFields
  | .jg => parseJGFields
  | .wc => parseWCFields
  | .wh => parseWHFields
  | .we => parseWEFields
  | .av => parseAVFields
  | .jc => parseJCFields
  | .tc => parseTCFields
  | .cc => parseCCFields

/-- The fields that the parser of a type sets. -/
def parseBasicFields (codePage : Bytes → Option Bytes) : FieldParser := fun type rawData =>
  emitFields codePage rawData (statementsOf type)

end JVLinkServer.Records
