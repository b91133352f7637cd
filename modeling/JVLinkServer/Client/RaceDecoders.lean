import JVLinkServer.Client.FieldReadings

namespace JVLinkServer.Client

/-! # The decoders of race records -/

def decodeCornerPassingOrder : List Field :=
  [("corner", .int), ("lap_count", .int), ("passing_order", .str)]

def decodeRA : Decoder where
  prologue := .race
  attributes :=
    [.str "weekday_code", .int "special_race_number", .str "race_name_main",
     .str "race_name_subtitle", .str "race_name_parentheses", .str "race_name_main_english",
     .str "race_name_subtitle_english", .str "race_name_parentheses_english",
     .str "race_short_name_10", .str "race_short_name_6", .str "race_short_name_3",
     .str "race_name_code", .int "graded_race_round_number", .str "grade_code",
     .str "before_grade_code", .str "race_type_code", .str "race_symbol_code",
     .str "weight_type_code", .str "race_cond_code_2yo", .str "race_cond_code_3yo",
     .str "race_cond_code_4yo", .str "race_cond_code_5yo_up", .str "race_cond_code_youngest",
     .str "race_condition_name", .int "distance", .int "before_distance", .str "track_code",
     .str "before_track_code", .str "course_code", .str "before_course_code", .ints "purse_money",
     .ints "before_purse_money", .ints "added_money", .ints "before_added_money",
     .time "post_time", .time "before_post_time", .int "num_entries", .int "num_starters",
     .int "num_finishers", .str "weather_code", .str "turf_track_condition_code",
     .str "dirt_track_condition_code", .strs "lap_times", .str "mile_time", .str "first_3f_time",
     .str "first_4f_time", .str "last_3f_time", .str "last_4f_time",
     .items "corner_passing_order" none decodeCornerPassingOrder, .str "record_update_code"]

def decodeOpponentHorses : List Field :=
  [("pedigree_reg_num", .str), ("horse_name", .str)]

def decodeSE : Decoder where
  prologue := .race
  attributes :=
    [.int "bracket_number", .int "horse_number", .str "pedigree_reg_num", .str "horse_name",
     .str "horse_symbol_code", .str "horse_sex_code", .str "breed_code", .str "coat_color_code",
     .int "horse_age", .str "east_west_affiliation_code", .str "trainer_code",
     .str "trainer_short_name", .str "owner_code", .str "owner_name_individual",
     .str "silk_colors", .float "carrying_weight", .float "before_carrying_weight",
     .str "blinker_usage_code", .str "jockey_code", .str "before_jockey_code",
     .str "jockey_short_name", .str "before_jockey_short_name", .str "jockey_apprentice_code",
     .str "before_jockey_apprentice_code", .int "horse_weight", .str "weight_change_sign",
     .int "weight_change_diff", .str "abnormality_code", .int "finish_order",
     .int "confirmed_placing", .str "dead_heat_code", .int "dead_heat_count", .str "finish_time",
     .str "margin_code", .str "margin_code_plus", .str "margin_code_plus_plus",
     .int "corner1_position", .int "corner2_position", .int "corner3_position",
     .int "corner4_position", .float "win_odds", .int "win_popularity_rank",
     .int "earned_purse_money", .int "earned_added_money", .str "last_4f_time",
     .str "last_3f_time", .items "opponent_horses" none decodeOpponentHorses, .int "time_diff",
     .str "record_update_code", .str "mining_code", .str "mining_pred_finish_time",
     .str "mining_pred_err_margin_plus", .str "mining_pred_err_margin_minus",
     .int "mining_pred_rank", .str "current_race_running_style_judgement"]

def decodePaybackList : List Field :=
  [("number", .str), ("payout", .int), ("popularity_rank", .int)]

def decodeHR : Decoder where
  prologue := .race
  attributes :=
    [.int "num_entries", .int "num_starters", .str "win_cancelled_flag",
     .str "place_cancelled_flag", .str "bracket_quinella_cancelled_flag",
     .str "quinella_cancelled_flag", .str "wide_cancelled_flag", .str "exacta_cancelled_flag",
     .str "trio_cancelled_flag", .str "trifecta_cancelled_flag", .str "win_special_payout_flag",
     .str "place_special_payout_flag", .str "bracket_quinella_special_payout_flag",
     .str "quinella_special_payout_flag", .str "wide_special_payout_flag",
     .str "exacta_special_payout_flag", .str "trio_special_payout_flag",
     .str "trifecta_special_payout_flag", .str "win_refund_flag", .str "place_refund_flag",
     .str "bracket_quinella_refund_flag", .str "quinella_refund_flag", .str "wide_refund_flag",
     .str "exacta_refund_flag", .str "trio_refund_flag", .str "trifecta_refund_flag",
     .str "refund_horse_number_info_28", .str "refund_bracket_info",
     .str "refund_same_bracket_info", .items "win_payback" none decodePaybackList,
     .items "place_payback" none decodePaybackList,
     .items "bracket_quinella_payback" none decodePaybackList,
     .items "quinella_payback" none decodePaybackList,
     .items "wide_payback" none decodePaybackList, .items "exacta_payback" none decodePaybackList,
     .items "trio_payback" none decodePaybackList,
     .items "trifecta_payback" none decodePaybackList]

def decodeHorseWeightInfos : List Field :=
  [("horse_number", .int), ("horse_name", .str), ("horse_weight", .int),
   ("weight_change_sign", .str), ("weight_change_diff", .int)]

def decodeWH : Decoder where
  prologue := .announcedRace
  attributes :=
    [.items "horse_weight_infos" none decodeHorseWeightInfos]

def decodeWinOdds : List Field :=
  [("horse_number", .int), ("odds", .float), ("popularity_rank", .int)]

def decodePlaceOdds : List Field :=
  [("horse_number", .int), ("min_odds", .float), ("max_odds", .float), ("popularity_rank", .int)]

def decodeBracketOdds : List Field :=
  [("combination", .str), ("odds", .float), ("popularity_rank", .int)]

def decodeO1 : Decoder where
  prologue := .announcedRace
  attributes :=
    [.int "num_entries", .int "num_starters", .saleFlag "win_sales_flag",
     .saleFlag "place_sales_flag", .saleFlag "bracket_quinella_sales_flag",
     .int "place_payout_key", .items "win_odds" none decodeWinOdds,
     .items "place_odds" none decodePlaceOdds,
     .items "bracket_quinella_odds" none decodeBracketOdds, .int "win_total_votes",
     .int "place_total_votes", .int "bracket_quinella_total_votes"]

def decodeEntryHorses : List Field :=
  [("serial_number", .int), ("pedigree_reg_num", .str), ("horse_name", .str),
   ("horse_symbol_code", .str), ("sex_code", .str), ("trainer_affiliation_code", .str),
   ("trainer_code", .str), ("trainer_short_name", .str), ("impost_weight", .int),
   ("exchange_code", .str)]

def decodeTK : Decoder where
  prologue := .race
  attributes :=
    [.str "weekday_code", .int "special_race_number", .str "race_name_main",
     .str "race_name_subtitle", .str "race_name_parentheses", .str "race_name_main_english",
     .str "race_name_subtitle_english", .str "race_name_parentheses_english",
     .str "race_short_name_10", .str "race_short_name_6", .str "race_short_name_3",
     .str "race_name_code", .int "graded_race_round_number", .str "grade_code",
     .str "race_type_code", .str "race_symbol_code", .str "weight_type_code",
     .str "race_cond_code_2yo", .str "race_cond_code_3yo", .str "race_cond_code_4yo",
     .str "race_cond_code_5yo_up", .str "race_cond_code_youngest", .int "distance",
     .str "track_code", .str "course_code", .date "handicap_announcement_date",
     .int "num_entries", .items "entry_horses" none decodeEntryHorses]

def decodeH1HorseNumberVotes : List Field :=
  [("horse_number", .int), ("votes", .int), ("popularity_rank", .int)]

def decodeH1CombinationVotes : List Field :=
  [("combination", .str), ("votes", .int), ("popularity_rank", .int)]

def decodeH1 : Decoder where
  prologue := .race
  attributes :=
    [.int "num_entries", .int "num_starters", .saleFlag "win_sales_flag",
     .saleFlag "place_sales_flag", .saleFlag "bracket_quinella_sales_flag",
     .saleFlag "quinella_sales_flag", .saleFlag "wide_sales_flag", .saleFlag "exacta_sales_flag",
     .saleFlag "trio_sales_flag", .int "place_payout_key", .strs "refund_horse_numbers",
     .strs "refund_bracket_numbers", .strs "refund_same_bracket",
     .items "win_votes" none decodeH1HorseNumberVotes,
     .items "place_votes" none decodeH1HorseNumberVotes,
     .items "bracket_quinella_votes" none decodeH1CombinationVotes,
     .items "quinella_votes" none decodeH1CombinationVotes,
     .items "wide_votes" none decodeH1CombinationVotes,
     .items "exacta_votes" none decodeH1CombinationVotes,
     .items "trio_votes" none decodeH1CombinationVotes, .int "win_total_votes",
     .int "place_total_votes", .int "bracket_quinella_total_votes", .int "quinella_total_votes",
     .int "wide_total_votes", .int "exacta_total_votes", .int "trio_total_votes",
     .int "win_refund_votes", .int "place_refund_votes", .int "bracket_quinella_refund_votes",
     .int "quinella_refund_votes", .int "wide_refund_votes", .int "exacta_refund_votes",
     .int "trio_refund_votes"]

def decodeH6TrifectaVotes : List Field :=
  [("combination", .str), ("votes", .int), ("popularity_rank", .int)]

def decodeH6 : Decoder where
  prologue := .race
  attributes :=
    [.int "num_entries", .int "num_starters", .saleFlag "trifecta_sales_flag",
     .strs "refund_horse_numbers", .items "trifecta_votes" none decodeH6TrifectaVotes,
     .int "trifecta_total_votes", .int "trifecta_refund_votes"]

def decodeQuinellaOdds : List Field :=
  [("combination", .str), ("odds", .float), ("popularity_rank", .int)]

def decodeO2 : Decoder where
  prologue := .announcedRace
  attributes :=
    [.int "num_entries", .int "num_starters", .saleFlag "quinella_sales_flag",
     .items "quinella_odds" none decodeQuinellaOdds, .int "quinella_total_votes"]

def decodeWideOdds : List Field :=
  [("combination", .str), ("min_odds", .float), ("max_odds", .float), ("popularity_rank", .int)]

def decodeO3 : Decoder where
  prologue := .announcedRace
  attributes :=
    [.int "num_entries", .int "num_starters", .saleFlag "wide_sales_flag",
     .items "wide_odds" none decodeWideOdds, .int "wide_total_votes"]

def decodeExactaOdds : List Field :=
  [("combination", .str), ("odds", .float), ("popularity_rank", .int)]

def decodeO4 : Decoder where
  prologue := .announcedRace
  attributes :=
    [.int "num_entries", .int "num_starters", .saleFlag "exacta_sales_flag",
     .items "exacta_odds" none decodeExactaOdds, .int "exacta_total_votes"]

def decodeTrioOdds : List Field :=
  [("combination", .str), ("odds", .float), ("popularity_rank", .int)]

def decodeO5 : Decoder where
  prologue := .announcedRace
  attributes :=
    [.int "num_entries", .int "num_starters", .saleFlag "trio_sales_flag",
     .items "trio_odds" none decodeTrioOdds, .int "trio_total_votes"]

def decodeTrifectaOdds : List Field :=
  [("combination", .str), ("odds", .float), ("popularity_rank", .int)]

def decodeO6 : Decoder where
  prologue := .announcedRace
  attributes :=
    [.int "num_entries", .int "num_starters", .saleFlag "trifecta_sales_flag",
     .items "trifecta_odds" none decodeTrifectaOdds, .int "trifecta_total_votes"]

def decodeTargetRaces : List Field :=
  [("racecourse_code", .str), ("meet_round", .int), ("meet_day", .int), ("race_number", .int)]

def decodePayoutInfo : List Field :=
  [("combination", .str), ("payout", .int), ("winning_tickets", .int)]

def decodeWF : Decoder where
  prologue := .race
  attributes :=
    [.items "target_races" none decodeTargetRaces, .int "total_tickets_sold",
     .ints "valid_ticket_counts", .str "refund_flag", .str "void_flag", .str "no_winner_flag",
     .int "carryover_initial", .int "carryover_remaining",
     .items "payout_info" none decodePayoutInfo]

def decodeJG : Decoder where
  prologue := .race
  attributes :=
    [.str "pedigree_reg_num", .str "horse_name", .int "entry_order", .str "entry_code",
     .str "exclusion_code"]

def decodeTimeMiningPredictions : List Field :=
  [("horse_number", .int), ("predicted_finish_time", .str), ("error_margin_plus", .str),
   ("error_margin_minus", .str)]

def decodeDM : Decoder where
  prologue := .race
  attributes :=
    [.time "data_creation_time", .items "mining_predictions" none decodeTimeMiningPredictions]

def decodeMatchupMiningPredictions : List Field :=
  [("horse_number", .int), ("prediction_score", .float)]

def decodeTM : Decoder where
  prologue := .race
  attributes :=
    [.time "data_creation_time", .items "mining_predictions" none decodeMatchupMiningPredictions]

def decodeCkPerformanceStats : List Field :=
  [("year", .int), ("flat_prize_money", .int), ("obstacle_prize_money", .int),
   ("flat_added_money", .int), ("obstacle_added_money", .int), ("turf_placing_counts", .ints),
   ("dirt_placing_counts", .ints), ("obstacle_placing_counts", .ints),
   ("turf_dist_1200_placing_counts", .ints), ("turf_dist_1201_1400_placing_counts", .ints),
   ("turf_dist_1401_1600_placing_counts", .ints), ("turf_dist_1601_1800_placing_counts", .ints),
   ("turf_dist_1801_2000_placing_counts", .ints), ("turf_dist_2001_2200_placing_counts", .ints),
   ("turf_dist_2201_2400_placing_counts", .ints), ("turf_dist_2401_2800_placing_counts", .ints),
   ("turf_dist_2801_placing_counts", .ints), ("dirt_dist_1200_placing_counts", .ints),
   ("dirt_dist_1201_1400_placing_counts", .ints), ("dirt_dist_1401_1600_placing_counts", .ints),
   ("dirt_dist_1601_1800_placing_counts", .ints), ("dirt_dist_1801_2000_placing_counts", .ints),
   ("dirt_dist_2001_2200_placing_counts", .ints), ("dirt_dist_2201_2400_placing_counts", .ints),
   ("dirt_dist_2401_2800_placing_counts", .ints), ("dirt_dist_2801_placing_counts", .ints),
   ("sapporo_turf_placing_counts", .ints), ("hakodate_turf_placing_counts", .ints),
   ("fukushima_turf_placing_counts", .ints), ("niigata_turf_placing_counts", .ints),
   ("tokyo_turf_placing_counts", .ints), ("nakayama_turf_placing_counts", .ints),
   ("chukyo_turf_placing_counts", .ints), ("kyoto_turf_placing_counts", .ints),
   ("hanshin_turf_placing_counts", .ints), ("kokura_turf_placing_counts", .ints),
   ("sapporo_dirt_placing_counts", .ints), ("hakodate_dirt_placing_counts", .ints),
   ("fukushima_dirt_placing_counts", .ints), ("niigata_dirt_placing_counts", .ints),
   ("tokyo_dirt_placing_counts", .ints), ("nakayama_dirt_placing_counts", .ints),
   ("chukyo_dirt_placing_counts", .ints), ("kyoto_dirt_placing_counts", .ints),
   ("hanshin_dirt_placing_counts", .ints), ("kokura_dirt_placing_counts", .ints),
   ("sapporo_obstacle_placing_counts", .ints), ("hakodate_obstacle_placing_counts", .ints),
   ("fukushima_obstacle_placing_counts", .ints), ("niigata_obstacle_placing_counts", .ints),
   ("tokyo_obstacle_placing_counts", .ints), ("nakayama_obstacle_placing_counts", .ints),
   ("chukyo_obstacle_placing_counts", .ints), ("kyoto_obstacle_placing_counts", .ints),
   ("hanshin_obstacle_placing_counts", .ints), ("kokura_obstacle_placing_counts", .ints)]

def decodeCkSimplePerformanceStats : List Field :=
  [("year", .int), ("prize_money", .int), ("added_money", .int), ("placing_counts", .ints)]

def decodeCK : Decoder where
  prologue := .race
  attributes :=
    [.str "pedigree_reg_num", .str "horse_name", .int "flat_purse_total",
     .int "obstacle_purse_total", .int "flat_added_money_total",
     .int "obstacle_added_money_total", .int "flat_earned_money_total",
     .int "obstacle_earned_money_total", .ints "total_placing_counts",
     .ints "jra_total_placing_counts", .ints "turf_straight_placing_counts",
     .ints "turf_right_placing_counts", .ints "turf_left_placing_counts",
     .ints "dirt_straight_placing_counts", .ints "dirt_right_placing_counts",
     .ints "dirt_left_placing_counts", .ints "obstacle_placing_counts",
     .ints "turf_good_placing_counts", .ints "turf_yielding_placing_counts",
     .ints "turf_heavy_placing_counts", .ints "turf_soft_placing_counts",
     .ints "dirt_good_placing_counts", .ints "dirt_yielding_placing_counts",
     .ints "dirt_heavy_placing_counts", .ints "dirt_soft_placing_counts",
     .ints "obstacle_good_placing_counts", .ints "obstacle_yielding_placing_counts",
     .ints "obstacle_heavy_placing_counts", .ints "obstacle_soft_placing_counts",
     .ints "running_style_counts", .int "registered_race_count", .str "jockey_code",
     .str "jockey_name", .items "jockey_performance_stats" none decodeCkPerformanceStats,
     .str "trainer_code", .str "trainer_name",
     .items "trainer_performance_stats" none decodeCkPerformanceStats, .str "owner_code",
     .str "owner_name_with_corp", .str "owner_name_individual",
     .items "owner_performance_stats" none decodeCkSimplePerformanceStats, .str "breeder_code",
     .str "breeder_name_with_corp", .str "breeder_name_individual",
     .items "breeder_performance_stats" none decodeCkSimplePerformanceStats]

def decodeWE : Decoder where
  prologue := .announcedMeet
  attributes :=
    [.str "change_identifier", .str "weather_code", .str "turf_track_condition_code",
     .str "dirt_track_condition_code", .str "before_weather_code",
     .str "before_turf_track_condition_code", .str "before_dirt_track_condition_code"]

def decodeAV : Decoder where
  prologue := .announcedRace
  attributes :=
    [.int "horse_number", .str "horse_name", .str "exclusion_reason_code"]

def decodeJC : Decoder where
  prologue := .announcedRace
  attributes :=
    [.int "horse_number", .str "horse_name", .int "after_weight_carried",
     .str "after_jockey_code", .str "after_jockey_name", .str "after_apprentice_code",
     .int "before_weight_carried", .str "before_jockey_code", .str "before_jockey_name",
     .str "before_apprentice_code"]

def decodeTC : Decoder where
  prologue := .announcedRace
  attributes :=
    [.time "after_post_time", .time "before_post_time"]

def decodeCC : Decoder where
  prologue := .announcedRace
  attributes :=
    [.int "after_distance", .str "after_track_code", .int "before_distance",
     .str "before_track_code", .str "reason_code"]

end JVLinkServer.Client
