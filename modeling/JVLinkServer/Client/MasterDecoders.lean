import JVLinkServer.Client.RaceDecoders

namespace JVLinkServer.Client

/-! # The decoders of masters, and the decoders by type -/

def decodeUmPedigree3gen : List Field :=
  [("breeding_reg_num", .str), ("horse_name", .str)]

def decodeUM : Decoder where
  prologue := .header
  attributes :=
    [.str "pedigree_reg_num", .str "deregistration_flag", .date "registration_date",
     .date "deregistration_date", .date "birth_date", .str "horse_name", .str "horse_name_kana",
     .str "horse_name_english", .str "jra_facility_flag", .str "horse_symbol_code",
     .str "sex_code", .str "breed_code", .str "coat_color_code",
     .items "pedigree_3gen" none decodeUmPedigree3gen, .str "affiliation_code",
     .str "trainer_code", .str "trainer_name_short", .str "invitation_area_name",
     .str "breeder_code", .str "breeder_name", .str "birthplace_name", .str "owner_code",
     .str "owner_name", .int "flat_prize_money_total", .int "steeplechase_prize_money_total",
     .int "flat_added_money_total", .int "steeplechase_added_money_total",
     .int "flat_earnings_total", .int "steeplechase_earnings_total",
     .ints "overall_placing_counts", .ints "central_placing_counts",
     .ints "turf_straight_placing_counts", .ints "turf_right_placing_counts",
     .ints "turf_left_placing_counts", .ints "dirt_straight_placing_counts",
     .ints "dirt_right_placing_counts", .ints "dirt_left_placing_counts",
     .ints "steeplechase_placing_counts", .ints "turf_good_placing_counts",
     .ints "turf_slightly_heavy_placing_counts", .ints "turf_heavy_placing_counts",
     .ints "turf_bad_placing_counts", .ints "dirt_good_placing_counts",
     .ints "dirt_slightly_heavy_placing_counts", .ints "dirt_heavy_placing_counts",
     .ints "dirt_bad_placing_counts", .ints "steeplechase_good_placing_counts",
     .ints "steeplechase_slightly_heavy_placing_counts",
     .ints "steeplechase_heavy_placing_counts", .ints "steeplechase_bad_placing_counts",
     .ints "turf_short_placing_counts", .ints "turf_mid_placing_counts",
     .ints "turf_long_placing_counts", .ints "dirt_short_placing_counts",
     .ints "dirt_mid_placing_counts", .ints "dirt_long_placing_counts",
     .ints "running_style_counts", .int "registered_race_count"]

def decodeFirstRideInfo : List Field :=
  [("race_key", .str), ("num_starters", .int), ("pedigree_reg_num", .str), ("horse_name", .str),
   ("confirmed_placing", .int), ("abnormality_code", .str)]

def decodeFirstWinInfo : List Field :=
  [("race_key", .str), ("num_starters", .int), ("pedigree_reg_num", .str), ("horse_name", .str)]

def decodeRecentGradedWins : List Field :=
  [("race_key", .str), ("race_name_main", .str), ("race_short_name_10", .str),
   ("race_short_name_6", .str), ("race_short_name_3", .str), ("grade_code", .str),
   ("num_starters", .int), ("pedigree_reg_num", .str), ("horse_name", .str)]

def decodePerformanceStats : List Field :=
  [("year", .int), ("flat_prize_money", .int), ("steeplechase_prize_money", .int),
   ("flat_added_money", .int), ("steeplechase_added_money", .int), ("flat_placing_counts", .ints),
   ("steeplechase_placing_counts", .ints), ("sapporo_flat_placing_counts", .ints),
   ("sapporo_steeplechase_placing_counts", .ints), ("hakodate_flat_placing_counts", .ints),
   ("hakodate_steeplechase_placing_counts", .ints), ("fukushima_flat_placing_counts", .ints),
   ("fukushima_steeplechase_placing_counts", .ints), ("niigata_flat_placing_counts", .ints),
   ("niigata_steeplechase_placing_counts", .ints), ("tokyo_flat_placing_counts", .ints),
   ("tokyo_steeplechase_placing_counts", .ints), ("nakayama_flat_placing_counts", .ints),
   ("nakayama_steeplechase_placing_counts", .ints), ("chukyo_flat_placing_counts", .ints),
   ("chukyo_steeplechase_placing_counts", .ints), ("kyoto_flat_placing_counts", .ints),
   ("kyoto_steeplechase_placing_counts", .ints), ("hanshin_flat_placing_counts", .ints),
   ("hanshin_steeplechase_placing_counts", .ints), ("kokura_flat_placing_counts", .ints),
   ("kokura_steeplechase_placing_counts", .ints), ("turf_class_d_placing_counts", .ints),
   ("turf_class_e_placing_counts", .ints), ("turf_gt2200_placing_counts", .ints),
   ("dirt_class_d_placing_counts", .ints), ("dirt_class_e_placing_counts", .ints),
   ("dirt_gt2200_placing_counts", .ints)]

def decodeKS : Decoder where
  prologue := .header
  attributes :=
    [.str "jockey_code", .str "deregistration_flag", .date "license_issue_date",
     .date "license_revoked_date", .date "birth_date", .str "jockey_name",
     .str "jockey_name_kana", .str "jockey_name_short", .str "jockey_name_english",
     .str "sex_code", .str "riding_qualification_code", .str "jockey_apprentice_code",
     .str "affiliation_code", .str "invitation_area_name", .str "affiliated_trainer_code",
     .str "affiliated_trainer_name_short",
     .items "first_ride_info" (some "race_key") decodeFirstRideInfo,
     .items "first_win_info" (some "race_key") decodeFirstWinInfo,
     .items "recent_graded_wins" none decodeRecentGradedWins,
     .items "performance_stats" none decodePerformanceStats]

def decodeCH : Decoder where
  prologue := .header
  attributes :=
    [.str "trainer_code", .str "deregistration_flag", .date "license_issue_date",
     .date "license_revoked_date", .date "birth_date", .str "trainer_name",
     .str "trainer_name_kana", .str "trainer_name_short", .str "trainer_name_english",
     .str "sex_code", .str "affiliation_code", .str "invitation_area_name",
     .items "recent_graded_wins" none decodeRecentGradedWins,
     .items "performance_stats" none decodePerformanceStats]

def decodeSimplePerformanceStats : List Field :=
  [("year", .int), ("prize_money", .int), ("added_money", .int), ("placing_counts", .ints)]

def decodeBR : Decoder where
  prologue := .header
  attributes :=
    [.str "breeder_code", .str "breeder_name_with_corp", .str "breeder_name",
     .str "breeder_name_kana", .str "breeder_name_english", .str "address",
     .items "performance_stats" none decodeSimplePerformanceStats]

def decodeBN : Decoder where
  prologue := .header
  attributes :=
    [.str "owner_code", .str "owner_name_with_corp", .str "owner_name", .str "owner_name_kana",
     .str "owner_name_english", .str "silk_colors_code",
     .items "performance_stats" none decodeSimplePerformanceStats]

def decodeRecordHolders : List Field :=
  [("pedigree_reg_num", .str), ("horse_name", .str), ("horse_symbol_code", .str),
   ("sex_code", .str), ("trainer_code", .str), ("trainer_name", .str), ("impost_weight", .float),
   ("jockey_code", .str), ("jockey_name", .str)]

def decodeRC : Decoder where
  prologue := .dated
  attributes :=
    [.str "record_identification_code", .int "meet_year", .str "racecourse_code",
     .int "meet_round", .int "meet_day", .int "race_number", .int "special_race_number",
     .str "race_name_main", .str "grade_code", .str "race_type_code", .int "distance",
     .str "track_code", .str "record_type_code", .str "record_time", .str "weather_code",
     .str "turf_track_condition_code", .str "dirt_track_condition_code",
     .items "record_holders" none decodeRecordHolders]

def decodeHN : Decoder where
  prologue := .header
  attributes :=
    [.str "breeding_reg_num", .str "pedigree_reg_num", .str "horse_name", .str "horse_name_kana",
     .str "horse_name_english", .int "birth_year", .str "sex_code", .str "breed_code",
     .str "coat_color_code", .str "import_code", .int "import_year", .str "birthplace_name",
     .str "sire_breeding_reg_num", .str "dam_breeding_reg_num"]

def decodeSK : Decoder where
  prologue := .header
  attributes :=
    [.str "pedigree_reg_num", .date "birth_date", .str "sex_code", .str "breed_code",
     .str "coat_color_code", .str "import_code", .int "import_year", .str "breeder_code",
     .str "birthplace_name", .strs "three_gen_pedigree_breeding_reg_nums"]

def decodeBT : Decoder where
  prologue := .header
  attributes :=
    [.str "breeding_reg_num", .str "lineage_id", .str "lineage_name", .str "lineage_description"]

def decodeHC : Decoder where
  prologue := .header
  attributes :=
    [.str "training_center_code", .date "training_date", .time "training_time",
     .str "pedigree_reg_num", .str "total_time_4f", .str "lap_time_800_600", .str "total_time_3f",
     .str "lap_time_600_400", .str "total_time_2f", .str "lap_time_400_200",
     .str "lap_time_200_0"]

def decodeGradedRaceGuide : List Field :=
  [("special_race_number", .int), ("race_name_main", .str), ("race_short_name_10", .str),
   ("race_short_name_6", .str), ("race_short_name_3", .str), ("graded_race_round_number", .int),
   ("grade_code", .str), ("race_type_code", .str), ("race_symbol_code", .str),
   ("weight_type_code", .str), ("distance", .int), ("track_code", .str)]

def decodeYS : Decoder where
  prologue := .dated
  attributes :=
    [.int "meet_year", .str "racecourse_code", .int "meet_round", .int "meet_day",
     .str "weekday_code", .items "graded_race_guide" none decodeGradedRaceGuide]

def decodeHS : Decoder where
  prologue := .header
  attributes :=
    [.str "pedigree_reg_num", .str "sire_breeding_reg_num", .str "dam_breeding_reg_num",
     .int "birth_year", .str "market_code", .str "organizer_name", .str "market_name",
     .date "market_start_date", .date "market_end_date", .int "horse_age_at_trade",
     .int "trade_price"]

def decodeHY : Decoder where
  prologue := .header
  attributes :=
    [.str "pedigree_reg_num", .str "horse_name", .str "horse_name_meaning"]

def decodeCS : Decoder where
  prologue := .header
  attributes :=
    [.str "racecourse_code", .int "distance", .str "track_code", .date "course_revision_date",
     .str "course_description"]

def decodeWC : Decoder where
  prologue := .header
  attributes :=
    [.str "training_center_code", .date "training_date", .time "training_time",
     .str "pedigree_reg_num", .str "course", .str "track_direction", .str "total_time_10f",
     .str "lap_time_2000_1800", .str "total_time_9f", .str "lap_time_1800_1600",
     .str "total_time_8f", .str "lap_time_1600_1400", .str "total_time_7f",
     .str "lap_time_1400_1200", .str "total_time_6f", .str "lap_time_1200_1000",
     .str "total_time_5f", .str "lap_time_1000_800", .str "total_time_4f", .str "total_time_3f",
     .str "total_time_2f", .str "lap_time_800_600", .str "lap_time_600_400",
     .str "lap_time_400_200", .str "lap_time_200_0"]

/-- `DEFAULT_DECODER_MAP` -/
def defaultDecoderMap : List (String × Decoder) :=
  [("AV", decodeAV), ("BN", decodeBN), ("BR", decodeBR), ("BT", decodeBT), ("CC", decodeCC),
   ("CH", decodeCH), ("CK", decodeCK), ("CS", decodeCS), ("DM", decodeDM), ("H1", decodeH1),
   ("H6", decodeH6), ("HC", decodeHC), ("HN", decodeHN), ("HR", decodeHR), ("HS", decodeHS),
   ("HY", decodeHY), ("JC", decodeJC), ("JG", decodeJG), ("KS", decodeKS), ("O1", decodeO1),
   ("O2", decodeO2), ("O3", decodeO3), ("O4", decodeO4), ("O5", decodeO5), ("O6", decodeO6),
   ("RA", decodeRA), ("RC", decodeRC), ("SE", decodeSE), ("SK", decodeSK), ("TC", decodeTC),
   ("TK", decodeTK), ("TM", decodeTM), ("UM", decodeUM), ("WC", decodeWC), ("WE", decodeWE),
   ("WF", decodeWF), ("WH", decodeWH), ("YS", decodeYS)]

/-- `RECORD_TYPES` -/
def recordTypes : List String :=
  ["AV", "BN", "BR", "BT", "CC", "CH", "CK", "CS", "DM", "H1", "H6", "HC", "HN", "HR", "HS", "HY",
   "JC", "JG", "KS", "O1", "O2", "O3", "O4", "O5", "O6", "RA", "RC", "SE", "SK", "TC", "TK", "TM",
   "UM", "WC", "WE", "WF", "WH", "YS"]

end JVLinkServer.Client
