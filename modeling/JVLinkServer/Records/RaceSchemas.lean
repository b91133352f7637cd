import JVLinkServer.Records.Schema

namespace JVLinkServer.Records

/-! # The schemas of race records -/

def jockeyStatsFields : List ElementField :=
  [.text "year" .int 0 4, .text "flat_prize_money" .money100yen 4 10,
   .text "obstacle_prize_money" .money100yen 14 10, .text "flat_added_money" .money100yen 24 10,
   .text "obstacle_added_money" .money100yen 34 10,
   .unsized "turf_placing_counts" .arrayInt 44 30, .unsized "dirt_placing_counts" .arrayInt 74 30,
   .unsized "obstacle_placing_counts" .arrayInt 104 24,
   .unsized "turf_dist_1200_placing_counts" .arrayInt 128 24,
   .unsized "turf_dist_1201_1400_placing_counts" .arrayInt 152 24,
   .unsized "turf_dist_1401_1600_placing_counts" .arrayInt 176 24,
   .unsized "turf_dist_1601_1800_placing_counts" .arrayInt 200 24,
   .unsized "turf_dist_1801_2000_placing_counts" .arrayInt 224 24,
   .unsized "turf_dist_2001_2200_placing_counts" .arrayInt 248 24,
   .unsized "turf_dist_2201_2400_placing_counts" .arrayInt 272 24,
   .unsized "turf_dist_2401_2800_placing_counts" .arrayInt 296 24,
   .unsized "turf_dist_2801_placing_counts" .arrayInt 320 24,
   .unsized "dirt_dist_1200_placing_counts" .arrayInt 344 24,
   .unsized "dirt_dist_1201_1400_placing_counts" .arrayInt 368 24,
   .unsized "dirt_dist_1401_1600_placing_counts" .arrayInt 392 24,
   .unsized "dirt_dist_1601_1800_placing_counts" .arrayInt 416 24,
   .unsized "dirt_dist_1801_2000_placing_counts" .arrayInt 440 24,
   .unsized "dirt_dist_2001_2200_placing_counts" .arrayInt 464 24,
   .unsized "dirt_dist_2201_2400_placing_counts" .arrayInt 488 24,
   .unsized "dirt_dist_2401_2800_placing_counts" .arrayInt 512 24,
   .unsized "dirt_dist_2801_placing_counts" .arrayInt 536 24,
   .unsized "sapporo_turf_placing_counts" .arrayInt 560 24,
   .unsized "hakodate_turf_placing_counts" .arrayInt 584 24,
   .unsized "fukushima_turf_placing_counts" .arrayInt 608 24,
   .unsized "niigata_turf_placing_counts" .arrayInt 632 24,
   .unsized "tokyo_turf_placing_counts" .arrayInt 656 24,
   .unsized "nakayama_turf_placing_counts" .arrayInt 680 24,
   .unsized "chukyo_turf_placing_counts" .arrayInt 704 24,
   .unsized "kyoto_turf_placing_counts" .arrayInt 728 24,
   .unsized "hanshin_turf_placing_counts" .arrayInt 752 24,
   .unsized "kokura_turf_placing_counts" .arrayInt 776 24,
   .unsized "sapporo_dirt_placing_counts" .arrayInt 800 24,
   .unsized "hakodate_dirt_placing_counts" .arrayInt 824 24,
   .unsized "fukushima_dirt_placing_counts" .arrayInt 848 24,
   .unsized "niigata_dirt_placing_counts" .arrayInt 872 24,
   .unsized "tokyo_dirt_placing_counts" .arrayInt 896 24,
   .unsized "nakayama_dirt_placing_counts" .arrayInt 920 24,
   .unsized "chukyo_dirt_placing_counts" .arrayInt 944 24,
   .unsized "kyoto_dirt_placing_counts" .arrayInt 968 24,
   .unsized "hanshin_dirt_placing_counts" .arrayInt 992 24,
   .unsized "kokura_dirt_placing_counts" .arrayInt 1016 24,
   .unsized "sapporo_obstacle_placing_counts" .arrayInt 1040 18,
   .unsized "hakodate_obstacle_placing_counts" .arrayInt 1058 18,
   .unsized "fukushima_obstacle_placing_counts" .arrayInt 1076 18,
   .unsized "niigata_obstacle_placing_counts" .arrayInt 1094 18,
   .unsized "tokyo_obstacle_placing_counts" .arrayInt 1112 18,
   .unsized "nakayama_obstacle_placing_counts" .arrayInt 1130 18,
   .unsized "chukyo_obstacle_placing_counts" .arrayInt 1148 18,
   .unsized "kyoto_obstacle_placing_counts" .arrayInt 1166 18,
   .unsized "hanshin_obstacle_placing_counts" .arrayInt 1184 18,
   .unsized "kokura_obstacle_placing_counts" .arrayInt 1202 18]

def tkSchema : RecordSchema where
  recordLength := 21657
  keyFields :=
    ["meet_year", "meet_date", "racecourse_code", "meet_round", "meet_day", "race_number"]
  common := .race
  own :=
    [.text "weekday_code" .str 28 1, .text "special_race_number" .int 29 4,
     .text "race_name_main" .str 33 60, .text "race_name_subtitle" .str 93 60,
     .text "race_name_parentheses" .str 153 60, .text "race_name_main_english" .str 213 120,
     .text "race_name_subtitle_english" .str 333 120,
     .text "race_name_parentheses_english" .str 453 120, .text "race_short_name_10" .str 573 20,
     .text "race_short_name_6" .str 593 12, .text "race_short_name_3" .str 605 6,
     .text "race_name_code" .str 611 1, .text "graded_race_round_number" .int 612 3,
     .text "grade_code" .str 615 1, .text "race_type_code" .str 616 2,
     .text "race_symbol_code" .str 618 3, .text "weight_type_code" .str 621 1,
     .text "race_cond_code_2yo" .str 622 3, .text "race_cond_code_3yo" .str 625 3,
     .text "race_cond_code_4yo" .str 628 3, .text "race_cond_code_5yo_up" .str 631 3,
     .text "race_cond_code_youngest" .str 634 3, .text "distance" .int 637 4,
     .text "track_code" .str 641 2, .text "course_code" .str 643 2,
     .text "handicap_announcement_date" .dateYyyymmdd 645 8, .text "num_entries" .int 653 3,
     .objects "entry_horses" 656 21000 70 300
      [.text "serial_number" .int 0 3, .text "pedigree_reg_num" .str 3 10,
       .text "horse_name" .str 13 36, .text "horse_symbol_code" .str 49 2,
       .text "sex_code" .str 51 1, .text "trainer_affiliation_code" .str 52 1,
       .text "trainer_code" .str 53 5, .text "trainer_short_name" .str 58 8,
       .text "impost_weight" .int 66 3, .text "exchange_code" .str 69 1]]

def raSchema : RecordSchema where
  recordLength := 1272
  keyFields :=
    ["meet_year", "meet_date", "racecourse_code", "meet_round", "meet_day", "race_number"]
  common := .race
  own :=
    [.text "weekday_code" .str 28 1, .text "special_race_number" .int 29 4,
     .text "race_name_main" .str 33 60, .text "race_name_subtitle" .str 93 60,
     .text "race_name_parentheses" .str 153 60, .text "race_name_main_english" .str 213 120,
     .text "race_name_subtitle_english" .str 333 120,
     .text "race_name_parentheses_english" .str 453 120, .text "race_short_name_10" .str 573 20,
     .text "race_short_name_6" .str 593 12, .text "race_short_name_3" .str 605 6,
     .text "race_name_code" .str 611 1, .text "graded_race_round_number" .int 612 3,
     .text "grade_code" .str 615 1, .text "before_grade_code" .str 616 1,
     .text "race_type_code" .str 617 2, .text "race_symbol_code" .str 619 3,
     .text "weight_type_code" .str 622 1, .text "race_cond_code_2yo" .str 623 3,
     .text "race_cond_code_3yo" .str 626 3, .text "race_cond_code_4yo" .str 629 3,
     .text "race_cond_code_5yo_up" .str 632 3, .text "race_cond_code_youngest" .str 635 3,
     .text "race_condition_name" .str 638 60, .text "distance" .int 698 4,
     .text "before_distance" .int 702 4, .text "track_code" .str 706 2,
     .text "before_track_code" .str 708 2, .text "course_code" .str 710 2,
     .text "before_course_code" .str 712 2, .array "purse_money" .arrayMoney100yen 714 56 8 7,
     .array "before_purse_money" .arrayMoney100yen 770 40 8 5,
     .array "added_money" .arrayMoney100yen 810 40 8 5,
     .array "before_added_money" .arrayMoney100yen 850 24 8 3, .text "post_time" .timeHhmm 874 4,
     .text "before_post_time" .timeHhmm 878 4, .text "num_entries" .int 882 2,
     .text "num_starters" .int 884 2, .text "num_finishers" .int 886 2,
     .text "weather_code" .str 888 1, .text "turf_track_condition_code" .str 889 1,
     .text "dirt_track_condition_code" .str 890 1,
     .array "lap_times" .arrayDurationSsS 891 75 3 25, .text "mile_time" .durationMssS 966 4,
     .text "first_3f_time" .durationSsS 970 3, .text "first_4f_time" .durationSsS 973 3,
     .text "last_3f_time" .durationSsS 976 3, .text "last_4f_time" .durationSsS 979 3,
     .objects "corner_passing_order" 982 288 72 4
      [.text "corner" .int 0 1, .text "lap_count" .int 1 1, .text "passing_order" .str 2 70],
     .text "record_update_code" .str 1270 1]

def seSchema : RecordSchema where
  recordLength := 555
  keyFields :=
    ["meet_year", "meet_date", "racecourse_code", "meet_round", "meet_day", "race_number",
     "horse_number", "pedigree_reg_num"]
  common := .race
  own :=
    [.text "bracket_number" .int 28 1, .text "horse_number" .int 29 2,
     .text "pedigree_reg_num" .str 31 10, .text "horse_name" .str 41 36,
     .text "horse_symbol_code" .str 77 2, .text "horse_sex_code" .str 79 1,
     .text "breed_code" .str 80 1, .text "coat_color_code" .str 81 2, .text "horse_age" .int 83 2,
     .text "east_west_affiliation_code" .str 85 1, .text "trainer_code" .str 86 5,
     .text "trainer_short_name" .str 91 8, .text "owner_code" .str 99 6,
     .text "owner_name_individual" .str 105 64, .text "silk_colors" .str 169 60,
     .text "carrying_weight" .float 289 3, .text "before_carrying_weight" .float 292 3,
     .text "blinker_usage_code" .str 295 1, .text "jockey_code" .str 297 5,
     .text "before_jockey_code" .str 302 5, .text "jockey_short_name" .str 307 8,
     .text "before_jockey_short_name" .str 315 8, .text "jockey_apprentice_code" .str 323 1,
     .text "before_jockey_apprentice_code" .str 324 1, .text "horse_weight" .int 325 3,
     .text "weight_change_sign" .str 328 1, .text "weight_change_diff" .int 329 3,
     .text "abnormality_code" .str 332 1, .text "finish_order" .int 333 2,
     .text "confirmed_placing" .int 335 2, .text "dead_heat_code" .str 337 1,
     .text "dead_heat_count" .int 338 1, .text "finish_time" .durationMssS 339 4,
     .text "margin_code" .str 343 3, .text "margin_code_plus" .str 346 3,
     .text "margin_code_plus_plus" .str 349 3, .text "corner1_position" .int 352 2,
     .text "corner2_position" .int 354 2, .text "corner3_position" .int 356 2,
     .text "corner4_position" .int 358 2, .text "win_odds" .float 360 4,
     .text "win_popularity_rank" .int 364 2, .text "earned_purse_money" .money100yen 366 8,
     .text "earned_added_money" .money100yen 374 8, .text "last_4f_time" .durationSsS 388 3,
     .text "last_3f_time" .durationSsS 391 3,
     .objects "opponent_horses" 394 138 46 3
      [.text "pedigree_reg_num" .str 0 10, .text "horse_name" .str 10 36],
     .text "time_diff" .int 532 4, .text "record_update_code" .str 536 1,
     .text "mining_code" .str 537 1, .text "mining_pred_finish_time" .durationMssSs 538 5,
     .text "mining_pred_err_margin_plus" .durationSsSs 543 4,
     .text "mining_pred_err_margin_minus" .durationSsSs 547 4,
     .text "mining_pred_rank" .int 551 2, .text "current_race_running_style_judgement" .str 553 1]

def hrSchema : RecordSchema where
  recordLength := 719
  keyFields :=
    ["meet_year", "meet_date", "racecourse_code", "meet_round", "meet_day", "race_number"]
  common := .race
  own :=
    [.text "num_entries" .int 28 2, .text "num_starters" .int 30 2,
     .text "win_cancelled_flag" .flag 32 1, .text "place_cancelled_flag" .flag 33 1,
     .text "bracket_quinella_cancelled_flag" .flag 34 1,
     .text "quinella_cancelled_flag" .flag 35 1, .text "wide_cancelled_flag" .flag 36 1,
     .text "exacta_cancelled_flag" .flag 38 1, .text "trio_cancelled_flag" .flag 39 1,
     .text "trifecta_cancelled_flag" .flag 40 1, .text "win_special_payout_flag" .flag 41 1,
     .text "place_special_payout_flag" .flag 42 1,
     .text "bracket_quinella_special_payout_flag" .flag 43 1,
     .text "quinella_special_payout_flag" .flag 44 1, .text "wide_special_payout_flag" .flag 45 1,
     .text "exacta_special_payout_flag" .flag 47 1, .text "trio_special_payout_flag" .flag 48 1,
     .text "trifecta_special_payout_flag" .flag 49 1, .text "win_refund_flag" .flag 50 1,
     .text "place_refund_flag" .flag 51 1, .text "bracket_quinella_refund_flag" .flag 52 1,
     .text "quinella_refund_flag" .flag 53 1, .text "wide_refund_flag" .flag 54 1,
     .text "exacta_refund_flag" .flag 56 1, .text "trio_refund_flag" .flag 57 1,
     .text "trifecta_refund_flag" .flag 58 1, .text "refund_horse_number_info_28" .str 59 28,
     .text "refund_bracket_info" .str 87 8, .text "refund_same_bracket_info" .str 95 8,
     .objects "win_payback" 103 39 13 3
      [.text "number" .str 0 2, .text "payout" .int 2 9, .text "popularity_rank" .int 11 2],
     .objects "place_payback" 142 65 13 5
      [.text "number" .str 0 2, .text "payout" .int 2 9, .text "popularity_rank" .int 11 2],
     .objects "bracket_quinella_payback" 207 39 13 3
      [.text "number" .str 0 2, .text "payout" .int 2 9, .text "popularity_rank" .int 11 2],
     .objects "quinella_payback" 246 48 16 3
      [.text "number" .str 0 4, .text "payout" .int 4 9, .text "popularity_rank" .int 13 3],
     .objects "wide_payback" 294 112 16 7
      [.text "number" .str 0 4, .text "payout" .int 4 9, .text "popularity_rank" .int 13 3],
     .objects "exacta_payback" 454 96 16 6
      [.text "number" .str 0 4, .text "payout" .int 4 9, .text "popularity_rank" .int 13 3],
     .objects "trio_payback" 550 54 18 3
      [.text "number" .str 0 6, .text "payout" .int 6 9, .text "popularity_rank" .int 15 3],
     .objects "trifecta_payback" 604 114 19 6
      [.text "number" .str 0 6, .text "payout" .int 6 9, .text "popularity_rank" .int 15 4]]

def h1Schema : RecordSchema where
  recordLength := 28955
  keyFields :=
    ["meet_year", "meet_date", "racecourse_code", "meet_round", "meet_day", "race_number"]
  common := .race
  own :=
    [.text "num_entries" .int 28 2, .text "num_starters" .int 30 2,
     .text "win_sales_flag" .flag 32 1, .text "place_sales_flag" .flag 33 1,
     .text "bracket_quinella_sales_flag" .flag 34 1, .text "quinella_sales_flag" .flag 35 1,
     .text "wide_sales_flag" .flag 36 1, .text "exacta_sales_flag" .flag 37 1,
     .text "trio_sales_flag" .flag 38 1, .text "place_payout_key" .int 39 1,
     .array "refund_horse_numbers" .arrayStr 40 28 1 28,
     .array "refund_bracket_numbers" .arrayStr 68 8 1 8,
     .array "refund_same_bracket" .arrayStr 76 8 1 8,
     .objects "win_votes" 84 420 15 28
      [.text "horse_number" .int 0 2, .text "votes" .money100yen 2 11,
       .text "popularity_rank" .int 13 2],
     .objects "place_votes" 504 420 15 28
      [.text "horse_number" .int 0 2, .text "votes" .money100yen 2 11,
       .text "popularity_rank" .int 13 2],
     .objects "bracket_quinella_votes" 924 540 15 36
      [.text "combination" .str 0 2, .text "votes" .money100yen 2 11,
       .text "popularity_rank" .int 13 2],
     .objects "quinella_votes" 1464 2754 18 153
      [.text "combination" .str 0 4, .text "votes" .money100yen 4 11,
       .text "popularity_rank" .int 15 3],
     .objects "wide_votes" 4218 2754 18 153
      [.text "combination" .str 0 4, .text "votes" .money100yen 4 11,
       .text "popularity_rank" .int 15 3],
     .objects "exacta_votes" 6972 5508 18 306
      [.text "combination" .str 0 4, .text "votes" .money100yen 4 11,
       .text "popularity_rank" .int 15 3],
     .objects "trio_votes" 12480 16320 20 816
      [.text "combination" .str 0 6, .text "votes" .money100yen 6 11,
       .text "popularity_rank" .int 17 3],
     .text "win_total_votes" .money100yen 28800 11,
     .text "place_total_votes" .money100yen 28811 11,
     .text "bracket_quinella_total_votes" .money100yen 28822 11,
     .text "quinella_total_votes" .money100yen 28833 11,
     .text "wide_total_votes" .money100yen 28844 11,
     .text "exacta_total_votes" .money100yen 28855 11,
     .text "trio_total_votes" .money100yen 28866 11,
     .text "win_refund_votes" .money100yen 28877 11,
     .text "place_refund_votes" .money100yen 28888 11,
     .text "bracket_quinella_refund_votes" .money100yen 28899 11,
     .text "quinella_refund_votes" .money100yen 28910 11,
     .text "wide_refund_votes" .money100yen 28921 11,
     .text "exacta_refund_votes" .money100yen 28932 11,
     .text "trio_refund_votes" .money100yen 28943 11]

def h6Schema : RecordSchema where
  recordLength := 102890
  keyFields :=
    ["meet_year", "meet_date", "racecourse_code", "meet_round", "meet_day", "race_number"]
  common := .race
  own :=
    [.text "num_entries" .int 28 2, .text "num_starters" .int 30 2,
     .text "trifecta_sales_flag" .flag 32 1, .array "refund_horse_numbers" .arrayStr 33 18 1 18,
     .objects "trifecta_votes" 51 102816 21 4896
      [.text "combination" .str 0 6, .text "votes" .money100yen 6 11,
       .text "popularity_rank" .int 17 4],
     .text "trifecta_total_votes" .money100yen 102867 11,
     .text "trifecta_refund_votes" .money100yen 102878 11]

def o1Schema : RecordSchema where
  recordLength := 962
  keyFields :=
    ["meet_year", "meet_date", "racecourse_code", "meet_round", "meet_day", "race_number"]
  common := .race
  own :=
    [.text "announcement_datetime" .datetimeMmddhhmm 28 8, .text "num_entries" .int 36 2,
     .text "num_starters" .int 38 2, .text "win_sales_flag" .flag 40 1,
     .text "place_sales_flag" .flag 41 1, .text "bracket_quinella_sales_flag" .flag 42 1,
     .text "place_payout_key" .int 43 1,
     .objects "win_odds" 44 224 8 28
      [.text "horse_number" .int 0 2, .text "odds" .float 2 4, .text "popularity_rank" .int 6 2],
     .objects "place_odds" 268 336 12 28
      [.text "horse_number" .int 0 2, .text "min_odds" .float 2 4, .text "max_odds" .float 6 4,
       .text "popularity_rank" .int 10 2],
     .objects "bracket_quinella_odds" 604 324 9 36
      [.text "combination" .str 0 2, .text "odds" .float 2 5, .text "popularity_rank" .int 7 2],
     .text "win_total_votes" .money100yen 928 11, .text "place_total_votes" .money100yen 939 11,
     .text "bracket_quinella_total_votes" .money100yen 950 11]

def o2Schema : RecordSchema where
  recordLength := 2042
  keyFields :=
    ["meet_year", "meet_date", "racecourse_code", "meet_round", "meet_day", "race_number"]
  common := .race
  own :=
    [.text "announcement_datetime" .datetimeMmddhhmm 28 8, .text "num_entries" .int 36 2,
     .text "num_starters" .int 38 2, .text "quinella_sales_flag" .flag 40 1,
     .objects "quinella_odds" 41 1989 13 153
      [.text "combination" .str 0 4, .text "odds" .float 4 6, .text "popularity_rank" .int 10 3],
     .text "quinella_total_votes" .money100yen 2030 11]

def o3Schema : RecordSchema where
  recordLength := 2654
  keyFields :=
    ["meet_year", "meet_date", "racecourse_code", "meet_round", "meet_day", "race_number"]
  common := .race
  own :=
    [.text "announcement_datetime" .datetimeMmddhhmm 28 8, .text "num_entries" .int 36 2,
     .text "num_starters" .int 38 2, .text "wide_sales_flag" .flag 40 1,
     .objects "wide_odds" 41 2601 17 153
      [.text "combination" .str 0 4, .text "min_odds" .float 4 5, .text "max_odds" .float 9 5,
       .text "popularity_rank" .int 14 3],
     .text "wide_total_votes" .money100yen 2642 11]

def o4Schema : RecordSchema where
  recordLength := 4031
  keyFields :=
    ["meet_year", "meet_date", "racecourse_code", "meet_round", "meet_day", "race_number"]
  common := .race
  own :=
    [.text "announcement_datetime" .datetimeMmddhhmm 28 8, .text "num_entries" .int 36 2,
     .text "num_starters" .int 38 2, .text "exacta_sales_flag" .flag 40 1,
     .objects "exacta_odds" 41 3978 13 306
      [.text "combination" .str 0 4, .text "odds" .float 4 6, .text "popularity_rank" .int 10 3],
     .text "exacta_total_votes" .money100yen 4019 11]

def o5Schema : RecordSchema where
  recordLength := 12293
  keyFields :=
    ["meet_year", "meet_date", "racecourse_code", "meet_round", "meet_day", "race_number"]
  common := .race
  own :=
    [.text "announcement_datetime" .datetimeMmddhhmm 28 8, .text "num_entries" .int 36 2,
     .text "num_starters" .int 38 2, .text "trio_sales_flag" .flag 40 1,
     .objects "trio_odds" 41 12240 15 816
      [.text "combination" .str 0 6, .text "odds" .float 6 6, .text "popularity_rank" .int 12 3],
     .text "trio_total_votes" .money100yen 12281 11]

def o6Schema : RecordSchema where
  recordLength := 83285
  keyFields :=
    ["meet_year", "meet_date", "racecourse_code", "meet_round", "meet_day", "race_number"]
  common := .race
  own :=
    [.text "announcement_datetime" .datetimeMmddhhmm 28 8, .text "num_entries" .int 36 2,
     .text "num_starters" .int 38 2, .text "trifecta_sales_flag" .flag 40 1,
     .objects "trifecta_odds" 41 83232 17 4896
      [.text "combination" .str 0 6, .text "odds" .float 6 7, .text "popularity_rank" .int 13 4],
     .text "trifecta_total_votes" .money100yen 83273 11]

def ckSchema : RecordSchema where
  recordLength := 6870
  keyFields :=
    ["meet_year", "meet_date", "racecourse_code", "meet_round", "meet_day", "race_number",
     "pedigree_reg_num"]
  common := .race
  own :=
    [.text "pedigree_reg_num" .str 28 10, .text "horse_name" .str 38 36,
     .text "flat_purse_total" .money100yen 74 9, .text "obstacle_purse_total" .money100yen 83 9,
     .text "flat_added_money_total" .money100yen 92 9,
     .text "obstacle_added_money_total" .money100yen 101 9,
     .text "flat_earned_money_total" .money100yen 110 9,
     .text "obstacle_earned_money_total" .money100yen 119 9,
     .array "total_placing_counts" .arrayInt 128 18 3 6,
     .array "jra_total_placing_counts" .arrayInt 146 18 3 6,
     .array "turf_straight_placing_counts" .arrayInt 164 18 3 6,
     .array "turf_right_placing_counts" .arrayInt 182 18 3 6,
     .array "turf_left_placing_counts" .arrayInt 200 18 3 6,
     .array "dirt_straight_placing_counts" .arrayInt 218 18 3 6,
     .array "dirt_right_placing_counts" .arrayInt 236 18 3 6,
     .array "dirt_left_placing_counts" .arrayInt 254 18 3 6,
     .array "obstacle_placing_counts" .arrayInt 272 18 3 6,
     .array "turf_good_placing_counts" .arrayInt 290 18 3 6,
     .array "turf_yielding_placing_counts" .arrayInt 308 18 3 6,
     .array "turf_heavy_placing_counts" .arrayInt 326 18 3 6,
     .array "turf_soft_placing_counts" .arrayInt 344 18 3 6,
     .array "dirt_good_placing_counts" .arrayInt 362 18 3 6,
     .array "dirt_yielding_placing_counts" .arrayInt 380 18 3 6,
     .array "dirt_heavy_placing_counts" .arrayInt 398 18 3 6,
     .array "dirt_soft_placing_counts" .arrayInt 416 18 3 6,
     .array "obstacle_good_placing_counts" .arrayInt 434 18 3 6,
     .array "obstacle_yielding_placing_counts" .arrayInt 452 18 3 6,
     .array "obstacle_heavy_placing_counts" .arrayInt 470 18 3 6,
     .array "obstacle_soft_placing_counts" .arrayInt 488 18 3 6,
     .array "turf_dist_1200_placing_counts" .arrayInt 506 18 3 6,
     .array "turf_dist_1201_1400_placing_counts" .arrayInt 524 18 3 6,
     .array "turf_dist_1401_1600_placing_counts" .arrayInt 542 18 3 6,
     .array "turf_dist_1601_1800_placing_counts" .arrayInt 560 18 3 6,
     .array "turf_dist_1801_2000_placing_counts" .arrayInt 578 18 3 6,
     .array "turf_dist_2001_2200_placing_counts" .arrayInt 596 18 3 6,
     .array "turf_dist_2201_2400_placing_counts" .arrayInt 614 18 3 6,
     .array "turf_dist_2401_2800_placing_counts" .arrayInt 632 18 3 6,
     .array "turf_dist_2801_placing_counts" .arrayInt 650 18 3 6,
     .array "dirt_dist_1200_placing_counts" .arrayInt 668 18 3 6,
     .array "dirt_dist_1201_1400_placing_counts" .arrayInt 686 18 3 6,
     .array "dirt_dist_1401_1600_placing_counts" .arrayInt 704 18 3 6,
     .array "dirt_dist_1601_1800_placing_counts" .arrayInt 722 18 3 6,
     .array "dirt_dist_1801_2000_placing_counts" .arrayInt 740 18 3 6,
     .array "dirt_dist_2001_2200_placing_counts" .arrayInt 758 18 3 6,
     .array "dirt_dist_2201_2400_placing_counts" .arrayInt 776 18 3 6,
     .array "dirt_dist_2401_2800_placing_counts" .arrayInt 794 18 3 6,
     .array "dirt_dist_2801_placing_counts" .arrayInt 812 18 3 6,
     .array "sapporo_turf_placing_counts" .arrayInt 830 18 3 6,
     .array "hakodate_turf_placing_counts" .arrayInt 848 18 3 6,
     .array "fukushima_turf_placing_counts" .arrayInt 866 18 3 6,
     .array "niigata_turf_placing_counts" .arrayInt 884 18 3 6,
     .array "tokyo_turf_placing_counts" .arrayInt 902 18 3 6,
     .array "nakayama_turf_placing_counts" .arrayInt 920 18 3 6,
     .array "chukyo_turf_placing_counts" .arrayInt 938 18 3 6,
     .array "kyoto_turf_placing_counts" .arrayInt 956 18 3 6,
     .array "hanshin_turf_placing_counts" .arrayInt 974 18 3 6,
     .array "kokura_turf_placing_counts" .arrayInt 992 18 3 6,
     .array "sapporo_dirt_placing_counts" .arrayInt 1010 18 3 6,
     .array "hakodate_dirt_placing_counts" .arrayInt 1028 18 3 6,
     .array "fukushima_dirt_placing_counts" .arrayInt 1046 18 3 6,
     .array "niigata_dirt_placing_counts" .arrayInt 1064 18 3 6,
     .array "tokyo_dirt_placing_counts" .arrayInt 1082 18 3 6,
     .array "nakayama_dirt_placing_counts" .arrayInt 1100 18 3 6,
     .array "chukyo_dirt_placing_counts" .arrayInt 1118 18 3 6,
     .array "kyoto_dirt_placing_counts" .arrayInt 1136 18 3 6,
     .array "hanshin_dirt_placing_counts" .arrayInt 1154 18 3 6,
     .array "kokura_dirt_placing_counts" .arrayInt 1172 18 3 6,
     .array "sapporo_obstacle_placing_counts" .arrayInt 1190 18 3 6,
     .array "hakodate_obstacle_placing_counts" .arrayInt 1208 18 3 6,
     .array "fukushima_obstacle_placing_counts" .arrayInt 1226 18 3 6,
     .array "niigata_obstacle_placing_counts" .arrayInt 1244 18 3 6,
     .array "tokyo_obstacle_placing_counts" .arrayInt 1262 18 3 6,
     .array "nakayama_obstacle_placing_counts" .arrayInt 1280 18 3 6,
     .array "chukyo_obstacle_placing_counts" .arrayInt 1298 18 3 6,
     .array "kyoto_obstacle_placing_counts" .arrayInt 1316 18 3 6,
     .array "hanshin_obstacle_placing_counts" .arrayInt 1334 18 3 6,
     .array "kokura_obstacle_placing_counts" .arrayInt 1352 18 3 6,
     .array "running_style_counts" .arrayInt 1370 12 3 4,
     .text "registered_race_count" .int 1382 3, .text "jockey_code" .str 1385 5,
     .text "jockey_name" .str 1390 34,
     .objects "jockey_performance_stats" 1424 2440 1220 2 jockeyStatsFields,
     .text "trainer_code" .str 3864 5, .text "trainer_name" .str 3869 34,
     .objects "trainer_performance_stats" 3903 2440 1220 2 jockeyStatsFields,
     .text "owner_code" .str 6343 6, .text "owner_name_with_corp" .str 6349 64,
     .text "owner_name_individual" .str 6413 64,
     .objects "owner_performance_stats" 6477 120 60 2
      [.text "year" .int 0 4, .text "prize_money" .money100yen 4 10,
       .text "added_money" .money100yen 14 10, .array "placing_counts" .arrayInt 24 36 6 6],
     .text "breeder_code" .str 6597 8, .text "breeder_name_with_corp" .str 6605 72,
     .text "breeder_name_individual" .str 6677 72,
     .objects "breeder_performance_stats" 6749 120 60 2
      [.text "year" .int 0 4, .text "prize_money" .money100yen 4 10,
       .text "added_money" .money100yen 14 10, .array "placing_counts" .arrayInt 24 36 6 6]]

def jgSchema : RecordSchema where
  recordLength := 80
  keyFields :=
    ["meet_year", "meet_date", "racecourse_code", "meet_round", "meet_day", "race_number",
     "pedigree_reg_num", "entry_order"]
  common := .race
  own :=
    [.text "pedigree_reg_num" .str 28 10, .text "horse_name" .str 38 36,
     .text "entry_order" .int 74 3, .text "entry_code" .str 77 1,
     .text "exclusion_code" .str 78 1]

def dmSchema : RecordSchema where
  recordLength := 303
  keyFields :=
    ["meet_year", "meet_date", "racecourse_code", "meet_round", "meet_day", "race_number"]
  common := .race
  own :=
    [.text "data_creation_time" .timeHhmm 28 4,
     .objects "mining_predictions" 32 270 15 18
      [.text "horse_number" .int 0 2, .text "predicted_finish_time" .durationMssSs 2 5,
       .text "error_margin_plus" .durationSsSs 7 4, .text "error_margin_minus" .durationSsSs 11 4]]

def tmSchema : RecordSchema where
  recordLength := 141
  keyFields :=
    ["meet_year", "meet_date", "racecourse_code", "meet_round", "meet_day", "race_number"]
  common := .race
  own :=
    [.text "data_creation_time" .timeHhmm 28 4,
     .objects "mining_predictions" 32 108 6 18
      [.text "horse_number" .int 0 2, .text "prediction_score" .float 2 4]]

def wfSchema : RecordSchema where
  recordLength := 7215
  keyFields := ["meet_year", "meet_date"]
  common := .race
  own :=
    [.objects "target_races" 22 40 8 5
      [.text "racecourse_code" .str 0 2, .text "meet_round" .int 2 2, .text "meet_day" .int 4 2,
       .text "race_number" .int 6 2],
     .text "total_tickets_sold" .int 68 11, .array "valid_ticket_counts" .arrayInt 79 55 11 5,
     .text "refund_flag" .flag 134 1, .text "void_flag" .flag 135 1,
     .text "no_winner_flag" .flag 136 1, .text "carryover_initial" .int 137 15,
     .text "carryover_remaining" .int 152 15,
     .objects "payout_info" 167 7047 29 243
      [.text "combination" .str 0 10, .text "payout" .int 10 9,
       .text "winning_tickets" .int 19 10]]

def whSchema : RecordSchema where
  recordLength := 847
  keyFields :=
    ["meet_year", "meet_date", "racecourse_code", "meet_round", "meet_day", "race_number"]
  common := .race
  own :=
    [.text "announcement_datetime" .datetimeMmddhhmm 28 8,
     .objects "horse_weight_infos" 36 810 45 18
      [.text "horse_number" .int 0 2, .text "horse_name" .str 2 36,
       .text "horse_weight" .int 38 3, .text "weight_change_sign" .str 41 1,
       .text "weight_change_diff" .int 42 3]]

def weSchema : RecordSchema where
  recordLength := 42
  keyFields :=
    ["meet_year", "meet_date", "racecourse_code", "meet_round", "meet_day",
     "announcement_datetime", "change_identifier"]
  common := .header
  own :=
    [.text "meet_year" .int 12 4, .text "meet_date" .dateMmdd 16 4,
     .text "racecourse_code" .str 20 2, .text "meet_round" .int 22 2, .text "meet_day" .int 24 2,
     .text "announcement_datetime" .datetimeMmddhhmm 26 8, .text "change_identifier" .str 34 1,
     .text "weather_code" .str 35 1, .text "turf_track_condition_code" .str 36 1,
     .text "dirt_track_condition_code" .str 37 1, .text "before_weather_code" .str 38 1,
     .text "before_turf_track_condition_code" .str 39 1,
     .text "before_dirt_track_condition_code" .str 40 1]

def avSchema : RecordSchema where
  recordLength := 78
  keyFields :=
    ["meet_year", "meet_date", "racecourse_code", "meet_round", "meet_day", "race_number",
     "horse_number"]
  common := .race
  own :=
    [.text "announcement_datetime" .datetimeMmddhhmm 28 8, .text "horse_number" .int 36 2,
     .text "horse_name" .str 38 36, .text "exclusion_reason_code" .str 74 3]

def jcSchema : RecordSchema where
  recordLength := 161
  keyFields :=
    ["meet_year", "meet_date", "racecourse_code", "meet_round", "meet_day", "race_number",
     "horse_number"]
  common := .race
  own :=
    [.text "announcement_datetime" .datetimeMmddhhmm 28 8, .text "horse_number" .int 36 2,
     .text "horse_name" .str 38 36, .text "after_weight_carried" .int 74 3,
     .text "after_jockey_code" .str 77 5, .text "after_jockey_name" .str 82 34,
     .text "after_apprentice_code" .str 116 1, .text "before_weight_carried" .int 117 3,
     .text "before_jockey_code" .str 120 5, .text "before_jockey_name" .str 125 34,
     .text "before_apprentice_code" .str 159 1]

def tcSchema : RecordSchema where
  recordLength := 45
  keyFields :=
    ["meet_year", "meet_date", "racecourse_code", "meet_round", "meet_day", "race_number"]
  common := .race
  own :=
    [.text "announcement_datetime" .datetimeMmddhhmm 28 8, .text "after_post_time" .timeHhmm 36 4,
     .text "before_post_time" .timeHhmm 40 4]

def ccSchema : RecordSchema where
  recordLength := 50
  keyFields :=
    ["meet_year", "meet_date", "racecourse_code", "meet_round", "meet_day", "race_number"]
  common := .race
  own :=
    [.text "announcement_datetime" .datetimeMmddhhmm 28 8, .text "after_distance" .int 36 4,
     .text "after_track_code" .str 40 2, .text "before_distance" .int 42 4,
     .text "before_track_code" .str 46 2, .text "reason_code" .str 48 1]

end JVLinkServer.Records
