import JVLinkServer.Records.RaceSchemas

namespace JVLinkServer.Records

/-! # The schemas of master records -/

def ownerStatsFields : List ElementField :=
  [.text "year" .int 0 4, .text "prize_money" .money100yen 4 10,
   .text "added_money" .money100yen 14 10, .stringArray "placing_counts" .arrayInt 24 36 6 6]

def riderStatsFields : List ElementField :=
  [.text "year" .int 0 4, .text "flat_prize_money" .money100yen 4 10,
   .text "steeplechase_prize_money" .money100yen 14 10,
   .text "flat_added_money" .money100yen 24 10,
   .text "steeplechase_added_money" .money100yen 34 10,
   .stringArray "flat_placing_counts" .arrayInt 44 36 6 6,
   .stringArray "steeplechase_placing_counts" .arrayInt 80 36 6 6,
   .stringArray "sapporo_flat_placing_counts" .arrayInt 116 36 6 6,
   .stringArray "sapporo_steeplechase_placing_counts" .arrayInt 152 36 6 6,
   .stringArray "hakodate_flat_placing_counts" .arrayInt 188 36 6 6,
   .stringArray "hakodate_steeplechase_placing_counts" .arrayInt 224 36 6 6,
   .stringArray "fukushima_flat_placing_counts" .arrayInt 260 36 6 6,
   .stringArray "fukushima_steeplechase_placing_counts" .arrayInt 296 36 6 6,
   .stringArray "niigata_flat_placing_counts" .arrayInt 332 36 6 6,
   .stringArray "niigata_steeplechase_placing_counts" .arrayInt 368 36 6 6,
   .stringArray "tokyo_flat_placing_counts" .arrayInt 404 36 6 6,
   .stringArray "tokyo_steeplechase_placing_counts" .arrayInt 440 36 6 6,
   .stringArray "nakayama_flat_placing_counts" .arrayInt 476 36 6 6,
   .stringArray "nakayama_steeplechase_placing_counts" .arrayInt 512 36 6 6,
   .stringArray "chukyo_flat_placing_counts" .arrayInt 548 36 6 6,
   .stringArray "chukyo_steeplechase_placing_counts" .arrayInt 584 36 6 6,
   .stringArray "kyoto_flat_placing_counts" .arrayInt 620 36 6 6,
   .stringArray "kyoto_steeplechase_placing_counts" .arrayInt 656 36 6 6,
   .stringArray "hanshin_flat_placing_counts" .arrayInt 692 36 6 6,
   .stringArray "hanshin_steeplechase_placing_counts" .arrayInt 728 36 6 6,
   .stringArray "kokura_flat_placing_counts" .arrayInt 764 36 6 6,
   .stringArray "kokura_steeplechase_placing_counts" .arrayInt 800 36 6 6,
   .stringArray "turf_class_d_placing_counts" .arrayInt 836 36 6 6,
   .stringArray "turf_class_e_placing_counts" .arrayInt 872 36 6 6,
   .stringArray "turf_gt2200_placing_counts" .arrayInt 908 36 6 6,
   .stringArray "dirt_class_d_placing_counts" .arrayInt 944 36 6 6,
   .stringArray "dirt_class_e_placing_counts" .arrayInt 980 36 6 6,
   .stringArray "dirt_gt2200_placing_counts" .arrayInt 1016 36 6 6]

def gradedWinFields : List ElementField :=
  [.text "race_key" .str 0 16, .text "race_name_main" .str 16 60,
   .text "race_short_name_10" .str 76 20, .text "race_short_name_6" .str 96 12,
   .text "race_short_name_3" .str 108 6, .text "grade_code" .str 114 1,
   .text "num_starters" .int 115 2, .text "pedigree_reg_num" .str 117 10,
   .text "horse_name" .str 127 36]

def umSchema : RecordSchema where
  recordLength := 1609
  keyFields := ["pedigree_reg_num"]
  common := .header
  own :=
    [.text "pedigree_reg_num" .str 12 10, .text "deregistration_flag" .str 22 1,
     .text "registration_date" .dateYyyymmdd 23 8, .text "deregistration_date" .dateYyyymmdd 31 8,
     .text "birth_date" .dateYyyymmdd 39 8, .text "horse_name" .str 47 36,
     .text "horse_name_kana" .str 83 36, .text "horse_name_english" .str 119 60,
     .text "jra_facility_flag" .str 179 1, .text "horse_symbol_code" .str 199 2,
     .text "sex_code" .str 201 1, .text "breed_code" .str 202 1,
     .text "coat_color_code" .str 203 2,
     .objects "pedigree_3gen" 205 644 46 14
      [.text "breeding_reg_num" .str 0 10, .text "horse_name" .str 10 36],
     .text "affiliation_code" .str 849 1, .text "trainer_code" .str 850 5,
     .text "trainer_name_short" .str 855 8, .text "invitation_area_name" .str 863 20,
     .text "breeder_code" .str 883 8, .text "breeder_name" .str 891 72,
     .text "birthplace_name" .str 963 20, .text "owner_code" .str 983 6,
     .text "owner_name" .str 989 64, .text "flat_prize_money_total" .money100yen 1053 9,
     .text "steeplechase_prize_money_total" .money100yen 1062 9,
     .text "flat_added_money_total" .money100yen 1071 9,
     .text "steeplechase_added_money_total" .money100yen 1080 9,
     .text "flat_earnings_total" .money100yen 1089 9,
     .text "steeplechase_earnings_total" .money100yen 1098 9,
     .array "overall_placing_counts" .arrayInt 1107 18 3 6,
     .array "central_placing_counts" .arrayInt 1125 18 3 6,
     .array "turf_straight_placing_counts" .arrayInt 1143 18 3 6,
     .array "turf_right_placing_counts" .arrayInt 1161 18 3 6,
     .array "turf_left_placing_counts" .arrayInt 1179 18 3 6,
     .array "dirt_straight_placing_counts" .arrayInt 1197 18 3 6,
     .array "dirt_right_placing_counts" .arrayInt 1215 18 3 6,
     .array "dirt_left_placing_counts" .arrayInt 1233 18 3 6,
     .array "steeplechase_placing_counts" .arrayInt 1251 18 3 6,
     .array "turf_good_placing_counts" .arrayInt 1269 18 3 6,
     .array "turf_slightly_heavy_placing_counts" .arrayInt 1287 18 3 6,
     .array "turf_heavy_placing_counts" .arrayInt 1305 18 3 6,
     .array "turf_bad_placing_counts" .arrayInt 1323 18 3 6,
     .array "dirt_good_placing_counts" .arrayInt 1341 18 3 6,
     .array "dirt_slightly_heavy_placing_counts" .arrayInt 1359 18 3 6,
     .array "dirt_heavy_placing_counts" .arrayInt 1377 18 3 6,
     .array "dirt_bad_placing_counts" .arrayInt 1395 18 3 6,
     .array "steeplechase_good_placing_counts" .arrayInt 1413 18 3 6,
     .array "steeplechase_slightly_heavy_placing_counts" .arrayInt 1431 18 3 6,
     .array "steeplechase_heavy_placing_counts" .arrayInt 1449 18 3 6,
     .array "steeplechase_bad_placing_counts" .arrayInt 1467 18 3 6,
     .array "turf_short_placing_counts" .arrayInt 1485 18 3 6,
     .array "turf_mid_placing_counts" .arrayInt 1503 18 3 6,
     .array "turf_long_placing_counts" .arrayInt 1521 18 3 6,
     .array "dirt_short_placing_counts" .arrayInt 1539 18 3 6,
     .array "dirt_mid_placing_counts" .arrayInt 1557 18 3 6,
     .array "dirt_long_placing_counts" .arrayInt 1575 18 3 6,
     .array "running_style_counts" .arrayInt 1593 12 3 4,
     .text "registered_race_count" .int 1605 3]

def ksSchema : RecordSchema where
  recordLength := 4173
  keyFields := ["jockey_code"]
  common := .header
  own :=
    [.text "jockey_code" .str 12 5, .text "deregistration_flag" .str 17 1,
     .text "license_issue_date" .dateYyyymmdd 18 8,
     .text "license_revoked_date" .dateYyyymmdd 26 8, .text "birth_date" .dateYyyymmdd 34 8,
     .text "jockey_name" .str 42 34, .text "reserved_10" .reserved 76 34,
     .text "jockey_name_kana" .str 110 30, .text "jockey_name_short" .str 140 8,
     .text "jockey_name_english" .str 148 80, .text "sex_code" .str 228 1,
     .text "riding_qualification_code" .str 229 1, .text "jockey_apprentice_code" .str 230 1,
     .text "affiliation_code" .str 231 1, .text "invitation_area_name" .str 232 20,
     .text "affiliated_trainer_code" .str 252 5, .text "affiliated_trainer_name_short" .str 257 8,
     .objects "first_ride_info" 265 134 67 2
      [.text "race_key" .str 0 16, .text "num_starters" .int 16 2,
       .text "pedigree_reg_num" .str 18 10, .text "horse_name" .str 28 36,
       .text "confirmed_placing" .int 64 2, .text "abnormality_code" .str 66 1],
     .objects "first_win_info" 399 128 64 2
      [.text "race_key" .str 0 16, .text "num_starters" .int 16 2,
       .text "pedigree_reg_num" .str 18 10, .text "horse_name" .str 28 36],
     .objects "recent_graded_wins" 527 489 163 3 gradedWinFields,
     .objects "performance_stats" 1016 3156 1052 3 riderStatsFields]

def chSchema : RecordSchema where
  recordLength := 3862
  keyFields := ["trainer_code"]
  common := .header
  own :=
    [.text "trainer_code" .str 12 5, .text "deregistration_flag" .str 17 1,
     .text "license_issue_date" .dateYyyymmdd 18 8,
     .text "license_revoked_date" .dateYyyymmdd 26 8, .text "birth_date" .dateYyyymmdd 34 8,
     .text "trainer_name" .str 42 34, .text "trainer_name_kana" .str 76 30,
     .text "trainer_name_short" .str 106 8, .text "trainer_name_english" .str 114 80,
     .text "sex_code" .str 194 1, .text "affiliation_code" .str 195 1,
     .text "invitation_area_name" .str 196 20,
     .objects "recent_graded_wins" 216 489 163 3 gradedWinFields,
     .objects "performance_stats" 705 3156 1052 3 riderStatsFields]

def brSchema : RecordSchema where
  recordLength := 545
  keyFields := ["breeder_code"]
  common := .header
  own :=
    [.text "breeder_code" .str 12 8, .text "breeder_name_with_corp" .str 20 72,
     .text "breeder_name" .str 92 72, .text "breeder_name_kana" .str 164 72,
     .text "breeder_name_english" .str 236 168, .text "address" .str 404 20,
     .objects "performance_stats" 424 120 60 2 ownerStatsFields]

def bnSchema : RecordSchema where
  recordLength := 477
  keyFields := ["owner_code"]
  common := .header
  own :=
    [.text "owner_code" .str 12 6, .text "owner_name_with_corp" .str 18 64,
     .text "owner_name" .str 82 64, .text "owner_name_kana" .str 146 50,
     .text "owner_name_english" .str 196 100, .text "silk_colors_code" .str 296 60,
     .objects "performance_stats" 356 120 60 2 ownerStatsFields]

def hnSchema : RecordSchema where
  recordLength := 251
  keyFields := ["breeding_reg_num"]
  common := .header
  own :=
    [.text "breeding_reg_num" .str 12 10, .text "pedigree_reg_num" .str 30 10,
     .text "horse_name" .str 41 36, .text "horse_name_kana" .str 77 40,
     .text "horse_name_english" .str 117 80, .text "birth_year" .int 197 4,
     .text "sex_code" .str 201 1, .text "breed_code" .str 202 1,
     .text "coat_color_code" .str 203 2, .text "import_code" .str 205 1,
     .text "import_year" .int 206 4, .text "birthplace_name" .str 210 20,
     .text "sire_breeding_reg_num" .str 230 10, .text "dam_breeding_reg_num" .str 240 10]

def skSchema : RecordSchema where
  recordLength := 208
  keyFields := ["pedigree_reg_num"]
  common := .header
  own :=
    [.text "pedigree_reg_num" .str 12 10, .text "birth_date" .dateYyyymmdd 22 8,
     .text "sex_code" .str 30 1, .text "breed_code" .str 31 1, .text "coat_color_code" .str 32 2,
     .text "import_code" .str 34 1, .text "import_year" .int 35 4, .text "breeder_code" .str 39 8,
     .text "birthplace_name" .str 47 20,
     .array "three_gen_pedigree_breeding_reg_nums" .arrayStr 67 140 10 14]

def rcSchema : RecordSchema where
  recordLength := 501
  keyFields :=
    ["record_identification_code", "meet_year", "meet_date", "racecourse_code", "meet_round",
     "meet_day", "race_number", "special_race_number", "race_type_code", "distance", "track_code"]
  common := .header
  own :=
    [.text "record_identification_code" .str 12 1, .text "meet_year" .int 13 4,
     .text "meet_date" .dateMmdd 17 4, .text "racecourse_code" .str 21 2,
     .text "meet_round" .int 23 2, .text "meet_day" .int 25 2, .text "race_number" .int 27 2,
     .text "special_race_number" .int 29 4, .text "race_name_main" .str 33 60,
     .text "grade_code" .str 93 1, .text "race_type_code" .str 94 2, .text "distance" .int 96 4,
     .text "track_code" .str 100 2, .text "record_type_code" .str 102 1,
     .text "record_time" .durationMssS 103 4, .text "weather_code" .str 107 1,
     .text "turf_track_condition_code" .str 108 1, .text "dirt_track_condition_code" .str 109 1,
     .objects "record_holders" 110 390 130 3
      [.text "pedigree_reg_num" .str 0 10, .text "horse_name" .str 10 36,
       .text "horse_symbol_code" .str 46 2, .text "sex_code" .str 48 1,
       .text "trainer_code" .str 49 5, .text "trainer_name" .str 54 34,
       .text "impost_weight" .float 88 3, .text "jockey_code" .str 91 5,
       .text "jockey_name" .str 96 34]]

def hcSchema : RecordSchema where
  recordLength := 60
  keyFields := ["training_center_code", "training_date", "training_time", "pedigree_reg_num"]
  common := .header
  own :=
    [.text "training_center_code" .str 12 1, .text "training_date" .dateYyyymmdd 13 8,
     .text "training_time" .timeHhmm 21 4, .text "pedigree_reg_num" .str 25 10,
     .text "total_time_4f" .durationSsS 35 4, .text "lap_time_800_600" .durationSsS 39 3,
     .text "total_time_3f" .durationSsS 42 4, .text "lap_time_600_400" .durationSsS 46 3,
     .text "total_time_2f" .durationSsS 49 4, .text "lap_time_400_200" .durationSsS 53 3,
     .text "lap_time_200_0" .durationSsS 56 3]

def hsSchema : RecordSchema where
  recordLength := 200
  keyFields := ["pedigree_reg_num", "market_code", "market_start_date"]
  common := .header
  own :=
    [.text "pedigree_reg_num" .str 12 10, .text "sire_breeding_reg_num" .str 22 10,
     .text "dam_breeding_reg_num" .str 32 10, .text "birth_year" .int 42 4,
     .text "market_code" .str 46 6, .text "organizer_name" .str 52 40,
     .text "market_name" .str 92 80, .text "market_start_date" .dateYyyymmdd 172 8,
     .text "market_end_date" .dateYyyymmdd 180 8, .text "horse_age_at_trade" .int 188 1,
     .text "trade_price" .int 189 10]

def hySchema : RecordSchema where
  recordLength := 123
  keyFields := ["pedigree_reg_num"]
  common := .header
  own :=
    [.text "pedigree_reg_num" .str 12 10, .text "horse_name" .str 22 36,
     .text "horse_name_meaning" .str 58 64]

def ysSchema : RecordSchema where
  recordLength := 382
  keyFields := ["meet_year", "meet_date", "racecourse_code", "meet_round", "meet_day"]
  common := .header
  own :=
    [.text "meet_year" .int 12 4, .text "meet_date" .dateMmdd 16 4,
     .text "racecourse_code" .str 20 2, .text "meet_round" .int 22 2, .text "meet_day" .int 24 2,
     .text "weekday_code" .str 26 1,
     .objects "graded_race_guide" 27 354 118 3
      [.text "special_race_number" .int 0 4, .text "race_name_main" .str 4 60,
       .text "race_short_name_10" .str 64 20, .text "race_short_name_6" .str 84 12,
       .text "race_short_name_3" .str 96 6, .text "graded_race_round_number" .int 102 3,
       .text "grade_code" .str 105 1, .text "race_type_code" .str 106 2,
       .text "race_symbol_code" .str 108 3, .text "weight_type_code" .str 111 1,
       .text "distance" .int 112 4, .text "track_code" .str 116 2]]

def btSchema : RecordSchema where
  recordLength := 6889
  keyFields := ["breeding_reg_num"]
  common := .header
  own :=
    [.text "breeding_reg_num" .str 12 10, .text "lineage_id" .str 22 30,
     .text "lineage_name" .str 52 36, .text "lineage_description" .str 88 6800]

def csSchema : RecordSchema where
  recordLength := 6829
  keyFields := ["racecourse_code", "distance", "track_code", "course_revision_date"]
  common := .header
  own :=
    [.text "racecourse_code" .str 12 2, .text "distance" .int 14 4, .text "track_code" .str 18 2,
     .text "course_revision_date" .dateYyyymmdd 20 8, .text "course_description" .str 28 6800]

def wcSchema : RecordSchema where
  recordLength := 105
  keyFields := ["training_center_code", "training_date", "training_time", "pedigree_reg_num"]
  common := .header
  own :=
    [.text "training_center_code" .str 12 1, .text "training_date" .dateYyyymmdd 13 8,
     .text "training_time" .timeHhmm 21 4, .text "pedigree_reg_num" .str 25 10,
     .text "course" .str 35 1, .text "track_direction" .str 36 1,
     .text "total_time_10f" .durationSsS 38 4, .text "lap_time_2000_1800" .durationSsS 42 3,
     .text "total_time_9f" .durationSsS 45 4, .text "lap_time_1800_1600" .durationSsS 49 3,
     .text "total_time_8f" .durationSsS 52 4, .text "lap_time_1600_1400" .durationSsS 56 3,
     .text "total_time_7f" .durationSsS 59 4, .text "lap_time_1400_1200" .durationSsS 63 3,
     .text "total_time_6f" .durationSsS 66 4, .text "lap_time_1200_1000" .durationSsS 70 3,
     .text "total_time_5f" .durationSsS 73 4, .text "lap_time_1000_800" .durationSsS 77 3,
     .text "total_time_4f" .durationSsS 80 4, .text "lap_time_800_600" .durationSsS 84 3,
     .text "total_time_3f" .durationSsS 87 4, .text "lap_time_600_400" .durationSsS 91 3,
     .text "total_time_2f" .durationSsS 94 4, .text "lap_time_400_200" .durationSsS 98 3,
     .text "lap_time_200_0" .durationSsS 101 3]

def noSchema : RecordSchema where
  recordLength := 0
  keyFields := []
  common := .none
  own := []

def schemaOf : RecordType → RecordSchema
  | .unknown => noSchema
  | .jg => jgSchema
  | .ra => raSchema
  | .rc => rcSchema
  | .se => seSchema
  | .um => umSchema
  | .ks => ksSchema
  | .ch => chSchema
  | .we => weSchema
  | .wh => whSchema
  | .hr => hrSchema
  | .h1 => h1Schema
  | .h6 => h6Schema
  | .hy => hySchema
  | .hc => hcSchema
  | .wc => wcSchema
  | .o1 => o1Schema
  | .o2 => o2Schema
  | .o3 => o3Schema
  | .o4 => o4Schema
  | .o5 => o5Schema
  | .o6 => o6Schema
  | .tk => tkSchema
  | .bt => btSchema
  | .br => brSchema
  | .bn => bnSchema
  | .hn => hnSchema
  | .sk => skSchema
  | .tc => tcSchema
  | .ys => ysSchema
  | .av => avSchema
  | .jc => jcSchema
  | .dm => dmSchema
  | .tm => tmSchema
  | .wf => wfSchema
  | .cs => csSchema
  | .cc => ccSchema
  | .ck => ckSchema
  | .hs => hsSchema

end JVLinkServer.Records
