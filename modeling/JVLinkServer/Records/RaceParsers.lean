import JVLinkServer.Records.FieldSlices

namespace JVLinkServer.Records

/-! # The parsers of race records -/

/-- Every parser begins with these two. -/
def withHeader (fields : List Statement) : List Statement :=
  .text "data_code" 2 1 :: .text "data_creation_date" 3 8 :: fields

/-- The parsers of records about a race begin with these eight. -/
def withRaceHeader (fields : List Statement) : List Statement :=
  withHeader
    (.text "meet_year" 11 4 :: .text "meet_date" 15 4 :: .text "racecourse_code" 19 2 ::
      .text "meet_round" 21 2 :: .text "meet_day" 23 2 :: .text "race_number" 25 2 :: fields)

/-- The counts of a jockey or a trainer in one year. -/
def jockeyStats : List Slice :=
  [.text "year" 0 4, .text "flat_prize_money" 4 10, .text "obstacle_prize_money" 14 10,
   .text "flat_added_money" 24 10, .text "obstacle_added_money" 34 10,
   .array "turf_placing_counts" 44 5 6, .array "dirt_placing_counts" 74 5 6,
   .array "obstacle_placing_counts" 104 4 6, .array "turf_dist_1200_placing_counts" 128 4 6,
   .array "turf_dist_1201_1400_placing_counts" 152 4 6,
   .array "turf_dist_1401_1600_placing_counts" 176 4 6,
   .array "turf_dist_1601_1800_placing_counts" 200 4 6,
   .array "turf_dist_1801_2000_placing_counts" 224 4 6,
   .array "turf_dist_2001_2200_placing_counts" 248 4 6,
   .array "turf_dist_2201_2400_placing_counts" 272 4 6,
   .array "turf_dist_2401_2800_placing_counts" 296 4 6,
   .array "turf_dist_2801_placing_counts" 320 4 6, .array "dirt_dist_1200_placing_counts" 344 4 6,
   .array "dirt_dist_1201_1400_placing_counts" 368 4 6,
   .array "dirt_dist_1401_1600_placing_counts" 392 4 6,
   .array "dirt_dist_1601_1800_placing_counts" 416 4 6,
   .array "dirt_dist_1801_2000_placing_counts" 440 4 6,
   .array "dirt_dist_2001_2200_placing_counts" 464 4 6,
   .array "dirt_dist_2201_2400_placing_counts" 488 4 6,
   .array "dirt_dist_2401_2800_placing_counts" 512 4 6,
   .array "dirt_dist_2801_placing_counts" 536 4 6, .array "sapporo_turf_placing_counts" 560 4 6,
   .array "hakodate_turf_placing_counts" 584 4 6, .array "fukushima_turf_placing_counts" 608 4 6,
   .array "niigata_turf_placing_counts" 632 4 6, .array "tokyo_turf_placing_counts" 656 4 6,
   .array "nakayama_turf_placing_counts" 680 4 6, .array "chukyo_turf_placing_counts" 704 4 6,
   .array "kyoto_turf_placing_counts" 728 4 6, .array "hanshin_turf_placing_counts" 752 4 6,
   .array "kokura_turf_placing_counts" 776 4 6, .array "sapporo_dirt_placing_counts" 800 4 6,
   .array "hakodate_dirt_placing_counts" 824 4 6, .array "fukushima_dirt_placing_counts" 848 4 6,
   .array "niigata_dirt_placing_counts" 872 4 6, .array "tokyo_dirt_placing_counts" 896 4 6,
   .array "nakayama_dirt_placing_counts" 920 4 6, .array "chukyo_dirt_placing_counts" 944 4 6,
   .array "kyoto_dirt_placing_counts" 968 4 6, .array "hanshin_dirt_placing_counts" 992 4 6,
   .array "kokura_dirt_placing_counts" 1016 4 6,
   .array "sapporo_obstacle_placing_counts" 1040 3 6,
   .array "hakodate_obstacle_placing_counts" 1058 3 6,
   .array "fukushima_obstacle_placing_counts" 1076 3 6,
   .array "niigata_obstacle_placing_counts" 1094 3 6,
   .array "tokyo_obstacle_placing_counts" 1112 3 6,
   .array "nakayama_obstacle_placing_counts" 1130 3 6,
   .array "chukyo_obstacle_placing_counts" 1148 3 6,
   .array "kyoto_obstacle_placing_counts" 1166 3 6,
   .array "hanshin_obstacle_placing_counts" 1184 3 6,
   .array "kokura_obstacle_placing_counts" 1202 3 6]

/-- The counts of an owner or a breeder in one year. -/
def ownerStats : List Slice :=
  [.text "year" 0 4, .text "prize_money" 4 10, .text "added_money" 14 10,
   .array "placing_counts" 24 6 6]

def parseTKFields : List Statement :=
  withRaceHeader
    [.text "weekday_code" 27 1, .text "special_race_number" 28 4, .text "race_name_main" 32 60,
     .text "race_name_subtitle" 92 60, .text "race_name_parentheses" 152 60,
     .text "race_name_main_english" 212 120, .text "race_name_subtitle_english" 332 120,
     .text "race_name_parentheses_english" 452 120, .text "race_short_name_10" 572 20,
     .text "race_short_name_6" 592 12, .text "race_short_name_3" 604 6,
     .text "race_name_code" 610 1, .text "graded_race_round_number" 611 3,
     .text "grade_code" 614 1, .text "race_type_code" 615 2, .text "race_symbol_code" 617 3,
     .text "weight_type_code" 620 1, .text "race_cond_code_2yo" 621 3,
     .text "race_cond_code_3yo" 624 3, .text "race_cond_code_4yo" 627 3,
     .text "race_cond_code_5yo_up" 630 3, .text "race_cond_code_youngest" 633 3,
     .text "distance" 636 4, .text "track_code" 640 2, .text "course_code" 642 2,
     .text "handicap_announcement_date" 644 8, .text "num_entries" 652 3,
     .objects "entry_horses" 655 70 300 (.text 3 "   ")
      [.text "serial_number" 0 3, .text "pedigree_reg_num" 3 10, .text "horse_name" 13 36,
       .text "horse_symbol_code" 49 2, .text "sex_code" 51 1,
       .text "trainer_affiliation_code" 52 1, .text "trainer_code" 53 5,
       .text "trainer_short_name" 58 8, .text "impost_weight" 66 3, .text "exchange_code" 69 1]]

def parseRAFields : List Statement :=
  withRaceHeader
    [.text "weekday_code" 27 1, .text "special_race_number" 28 4, .text "race_name_main" 32 60,
     .text "race_name_subtitle" 92 60, .text "race_name_parentheses" 152 60,
     .text "race_name_main_english" 212 120, .text "race_name_subtitle_english" 332 120,
     .text "race_name_parentheses_english" 452 120, .text "race_short_name_10" 572 20,
     .text "race_short_name_6" 592 12, .text "race_short_name_3" 604 6,
     .text "race_name_code" 610 1, .text "graded_race_round_number" 611 3,
     .text "grade_code" 614 1, .text "before_grade_code" 615 1, .text "race_type_code" 616 2,
     .text "race_symbol_code" 618 3, .text "weight_type_code" 621 1,
     .text "race_cond_code_2yo" 622 3, .text "race_cond_code_3yo" 625 3,
     .text "race_cond_code_4yo" 628 3, .text "race_cond_code_5yo_up" 631 3,
     .text "race_cond_code_youngest" 634 3, .text "race_condition_name" 637 60,
     .text "distance" 697 4, .text "before_distance" 701 4, .text "track_code" 705 2,
     .text "before_track_code" 707 2, .text "course_code" 709 2, .text "before_course_code" 711 2,
     .array "purse_money" 713 8 7, .array "before_purse_money" 769 8 5,
     .array "added_money" 809 8 5, .array "before_added_money" 849 8 3, .text "post_time" 873 4,
     .text "before_post_time" 877 4, .text "num_entries" 881 2, .text "num_starters" 883 2,
     .text "num_finishers" 885 2, .text "weather_code" 887 1,
     .text "turf_track_condition_code" 888 1, .text "dirt_track_condition_code" 889 1,
     .array "lap_times" 890 3 25, .text "mile_time" 965 4, .text "first_3f_time" 969 3,
     .text "first_4f_time" 972 3, .text "last_3f_time" 975 3, .text "last_4f_time" 978 3,
     .objects "corner_passing_order" 981 72 4 .never
      [.text "corner" 0 1, .text "lap_count" 1 1, .text "passing_order" 2 70],
     .text "record_update_code" 1269 1]

def parseSEFields : List Statement :=
  withRaceHeader
    [.text "bracket_number" 27 1, .text "horse_number" 28 2, .text "pedigree_reg_num" 30 10,
     .text "horse_name" 40 36, .text "horse_symbol_code" 76 2, .text "horse_sex_code" 78 1,
     .text "breed_code" 79 1, .text "coat_color_code" 80 2, .text "horse_age" 82 2,
     .text "east_west_affiliation_code" 84 1, .text "trainer_code" 85 5,
     .text "trainer_short_name" 90 8, .text "owner_code" 98 6,
     .text "owner_name_individual" 104 64, .text "silk_colors" 168 60,
     .text "carrying_weight" 288 3, .text "before_carrying_weight" 291 3,
     .text "blinker_usage_code" 294 1, .text "jockey_code" 296 5,
     .text "before_jockey_code" 301 5, .text "jockey_short_name" 306 8,
     .text "before_jockey_short_name" 314 8, .text "jockey_apprentice_code" 322 1,
     .text "before_jockey_apprentice_code" 323 1, .text "horse_weight" 324 3,
     .text "weight_change_sign" 327 1, .text "weight_change_diff" 328 3,
     .text "abnormality_code" 331 1, .text "finish_order" 332 2, .text "confirmed_placing" 334 2,
     .text "dead_heat_code" 336 1, .text "dead_heat_count" 337 1, .text "finish_time" 338 4,
     .text "margin_code" 342 3, .text "margin_code_plus" 345 3,
     .text "margin_code_plus_plus" 348 3, .text "corner1_position" 351 2,
     .text "corner2_position" 353 2, .text "corner3_position" 355 2,
     .text "corner4_position" 357 2, .text "win_odds" 359 4, .text "win_popularity_rank" 363 2,
     .text "earned_purse_money" 365 8, .text "earned_added_money" 373 8,
     .text "last_4f_time" 387 3, .text "last_3f_time" 390 3,
     .objects "opponent_horses" 393 46 3 .never
      [.text "pedigree_reg_num" 0 10, .text "horse_name" 10 36],
     .text "time_diff" 531 4, .text "record_update_code" 535 1, .text "mining_code" 536 1,
     .text "mining_pred_finish_time" 537 5, .text "mining_pred_err_margin_plus" 542 4,
     .text "mining_pred_err_margin_minus" 546 4, .text "mining_pred_rank" 550 2,
     .text "current_race_running_style_judgement" 552 1]

def parseHRFields : List Statement :=
  withRaceHeader
    [.text "num_entries" 27 2, .text "num_starters" 29 2, .text "win_cancelled_flag" 31 1,
     .text "place_cancelled_flag" 32 1, .text "bracket_quinella_cancelled_flag" 33 1,
     .text "quinella_cancelled_flag" 34 1, .text "wide_cancelled_flag" 35 1,
     .text "exacta_cancelled_flag" 37 1, .text "trio_cancelled_flag" 38 1,
     .text "trifecta_cancelled_flag" 39 1, .text "win_special_payout_flag" 40 1,
     .text "place_special_payout_flag" 41 1, .text "bracket_quinella_special_payout_flag" 42 1,
     .text "quinella_special_payout_flag" 43 1, .text "wide_special_payout_flag" 44 1,
     .text "exacta_special_payout_flag" 46 1, .text "trio_special_payout_flag" 47 1,
     .text "trifecta_special_payout_flag" 48 1, .text "win_refund_flag" 49 1,
     .text "place_refund_flag" 50 1, .text "bracket_quinella_refund_flag" 51 1,
     .text "quinella_refund_flag" 52 1, .text "wide_refund_flag" 53 1,
     .text "exacta_refund_flag" 55 1, .text "trio_refund_flag" 56 1,
     .text "trifecta_refund_flag" 57 1, .text "refund_horse_number_info_28" 58 28,
     .text "refund_bracket_info" 86 8, .text "refund_same_bracket_info" 94 8,
     .objects "win_payback" 102 13 3 .never
      [.text "number" 0 2, .text "payout" 2 9, .text "popularity_rank" 11 2],
     .objects "place_payback" 141 13 5 .never
      [.text "number" 0 2, .text "payout" 2 9, .text "popularity_rank" 11 2],
     .objects "bracket_quinella_payback" 206 13 3 .never
      [.text "number" 0 2, .text "payout" 2 9, .text "popularity_rank" 11 2],
     .objects "quinella_payback" 245 16 3 .never
      [.text "number" 0 4, .text "payout" 4 9, .text "popularity_rank" 13 3],
     .objects "wide_payback" 293 16 7 .never
      [.text "number" 0 4, .text "payout" 4 9, .text "popularity_rank" 13 3],
     .objects "exacta_payback" 453 16 6 .never
      [.text "number" 0 4, .text "payout" 4 9, .text "popularity_rank" 13 3],
     .objects "trio_payback" 549 18 3 .never
      [.text "number" 0 6, .text "payout" 6 9, .text "popularity_rank" 15 3],
     .objects "trifecta_payback" 603 19 6 .never
      [.text "number" 0 6, .text "payout" 6 9, .text "popularity_rank" 15 4]]

def parseH1Fields : List Statement :=
  withRaceHeader
    [.text "num_entries" 27 2, .text "num_starters" 29 2, .text "win_sales_flag" 31 1,
     .text "place_sales_flag" 32 1, .text "bracket_quinella_sales_flag" 33 1,
     .text "quinella_sales_flag" 34 1, .text "wide_sales_flag" 35 1,
     .text "exacta_sales_flag" 36 1, .text "trio_sales_flag" 37 1, .text "place_payout_key" 38 1,
     .text "refund_horse_numbers" 39 28, .text "refund_bracket_numbers" 67 8,
     .text "refund_same_bracket" 75 8,
     .objects "win_votes" 83 15 28 .never
      [.text "horse_number" 0 2, .text "votes" 2 11, .text "popularity_rank" 13 2],
     .objects "place_votes" 503 15 28 .never
      [.text "horse_number" 0 2, .text "votes" 2 11, .text "popularity_rank" 13 2],
     .objects "bracket_quinella_votes" 923 15 36 .never
      [.text "combination" 0 2, .text "votes" 2 11, .text "popularity_rank" 13 2],
     .objects "quinella_votes" 1463 18 153 .never
      [.text "combination" 0 4, .text "votes" 4 11, .text "popularity_rank" 15 3],
     .objects "wide_votes" 4217 18 153 .never
      [.text "combination" 0 4, .text "votes" 4 11, .text "popularity_rank" 15 3],
     .objects "exacta_votes" 6971 18 306 .never
      [.text "combination" 0 4, .text "votes" 4 11, .text "popularity_rank" 15 3],
     .objects "trio_votes" 12479 20 816 .never
      [.text "combination" 0 6, .text "votes" 6 11, .text "popularity_rank" 17 3],
     .text "win_total_votes" 28799 11, .text "place_total_votes" 28810 11,
     .text "bracket_quinella_total_votes" 28821 11, .text "quinella_total_votes" 28832 11,
     .text "wide_total_votes" 28843 11, .text "exacta_total_votes" 28854 11,
     .text "trio_total_votes" 28865 11, .text "win_refund_votes" 28876 11,
     .text "place_refund_votes" 28887 11, .text "bracket_quinella_refund_votes" 28898 11,
     .text "quinella_refund_votes" 28909 11, .text "wide_refund_votes" 28920 11,
     .text "exacta_refund_votes" 28931 11, .text "trio_refund_votes" 28942 11]

def parseH6Fields : List Statement :=
  withRaceHeader
    [.text "num_entries" 27 2, .text "num_starters" 29 2, .text "trifecta_sales_flag" 31 1,
     .text "refund_horse_numbers" 32 18,
     .objects "trifecta_votes" 50 21 4896 .never
      [.text "combination" 0 6, .text "votes" 6 11, .text "popularity_rank" 17 4],
     .text "trifecta_total_votes" 102866 11, .text "trifecta_refund_votes" 102877 11]

def parseO1Fields : List Statement :=
  withRaceHeader
    [.text "announcement_datetime" 27 8, .text "num_entries" 35 2, .text "num_starters" 37 2,
     .text "win_sales_flag" 39 1, .text "place_sales_flag" 40 1,
     .text "bracket_quinella_sales_flag" 41 1, .text "place_payout_key" 42 1,
     .objects "win_odds" 43 8 28 .never
      [.text "horse_number" 0 2, .text "odds" 2 4, .text "popularity_rank" 6 2],
     .objects "place_odds" 267 12 28 .never
      [.text "horse_number" 0 2, .text "min_odds" 2 4, .text "max_odds" 6 4,
       .text "popularity_rank" 10 2],
     .objects "bracket_quinella_odds" 603 9 36 .never
      [.text "combination" 0 2, .text "odds" 2 5, .text "popularity_rank" 7 2],
     .text "win_total_votes" 927 11, .text "place_total_votes" 938 11,
     .text "bracket_quinella_total_votes" 949 11]

def parseO2Fields : List Statement :=
  withRaceHeader
    [.text "announcement_datetime" 27 8, .text "num_entries" 35 2, .text "num_starters" 37 2,
     .text "quinella_sales_flag" 39 1,
     .objects "quinella_odds" 40 13 153 .never
      [.text "combination" 0 4, .text "odds" 4 6, .text "popularity_rank" 10 3],
     .text "quinella_total_votes" 2029 11]

def parseO3Fields : List Statement :=
  withRaceHeader
    [.text "announcement_datetime" 27 8, .text "num_entries" 35 2, .text "num_starters" 37 2,
     .text "wide_sales_flag" 39 1,
     .objects "wide_odds" 40 17 153 .never
      [.text "combination" 0 4, .text "min_odds" 4 5, .text "max_odds" 9 5,
       .text "popularity_rank" 14 3],
     .text "wide_total_votes" 2641 11]

def parseO4Fields : List Statement :=
  withRaceHeader
    [.text "announcement_datetime" 27 8, .text "num_entries" 35 2, .text "num_starters" 37 2,
     .text "exacta_sales_flag" 39 1,
     .objects "exacta_odds" 40 13 306 .never
      [.text "combination" 0 4, .text "odds" 4 6, .text "popularity_rank" 10 3],
     .text "exacta_total_votes" 4018 11]

def parseO5Fields : List Statement :=
  withRaceHeader
    [.text "announcement_datetime" 27 8, .text "num_entries" 35 2, .text "num_starters" 37 2,
     .text "trio_sales_flag" 39 1,
     .objects "trio_odds" 40 15 816 .never
      [.text "combination" 0 6, .text "odds" 6 6, .text "popularity_rank" 12 3],
     .text "trio_total_votes" 12280 11]

def parseO6Fields : List Statement :=
  withRaceHeader
    [.text "announcement_datetime" 27 8, .text "num_entries" 35 2, .text "num_starters" 37 2,
     .text "trifecta_sales_flag" 39 1,
     .objects "trifecta_odds" 40 17 4896 .never
      [.text "combination" 0 6, .text "odds" 6 7, .text "popularity_rank" 13 4],
     .text "trifecta_total_votes" 83272 11]

def parseCKFields : List Statement :=
  withRaceHeader
    [.text "pedigree_reg_num" 27 10, .text "horse_name" 37 36, .text "flat_purse_total" 73 9,
     .text "obstacle_purse_total" 82 9, .text "flat_added_money_total" 91 9,
     .text "obstacle_added_money_total" 100 9, .text "flat_earned_money_total" 109 9,
     .text "obstacle_earned_money_total" 118 9, .array "total_placing_counts" 127 3 6,
     .array "jra_total_placing_counts" 145 3 6, .array "turf_straight_placing_counts" 163 3 6,
     .array "turf_right_placing_counts" 181 3 6, .array "turf_left_placing_counts" 199 3 6,
     .array "dirt_straight_placing_counts" 217 3 6, .array "dirt_right_placing_counts" 235 3 6,
     .array "dirt_left_placing_counts" 253 3 6, .array "obstacle_placing_counts" 271 3 6,
     .array "turf_good_placing_counts" 289 3 6, .array "turf_yielding_placing_counts" 307 3 6,
     .array "turf_heavy_placing_counts" 325 3 6, .array "turf_soft_placing_counts" 343 3 6,
     .array "dirt_good_placing_counts" 361 3 6, .array "dirt_yielding_placing_counts" 379 3 6,
     .array "dirt_heavy_placing_counts" 397 3 6, .array "dirt_soft_placing_counts" 415 3 6,
     .array "obstacle_good_placing_counts" 433 3 6,
     .array "obstacle_yielding_placing_counts" 451 3 6,
     .array "obstacle_heavy_placing_counts" 469 3 6,
     .array "obstacle_soft_placing_counts" 487 3 6,
     .array "turf_dist_1200_placing_counts" 505 3 6,
     .array "turf_dist_1201_1400_placing_counts" 523 3 6,
     .array "turf_dist_1401_1600_placing_counts" 541 3 6,
     .array "turf_dist_1601_1800_placing_counts" 559 3 6,
     .array "turf_dist_1801_2000_placing_counts" 577 3 6,
     .array "turf_dist_2001_2200_placing_counts" 595 3 6,
     .array "turf_dist_2201_2400_placing_counts" 613 3 6,
     .array "turf_dist_2401_2800_placing_counts" 631 3 6,
     .array "turf_dist_2801_placing_counts" 649 3 6,
     .array "dirt_dist_1200_placing_counts" 667 3 6,
     .array "dirt_dist_1201_1400_placing_counts" 685 3 6,
     .array "dirt_dist_1401_1600_placing_counts" 703 3 6,
     .array "dirt_dist_1601_1800_placing_counts" 721 3 6,
     .array "dirt_dist_1801_2000_placing_counts" 739 3 6,
     .array "dirt_dist_2001_2200_placing_counts" 757 3 6,
     .array "dirt_dist_2201_2400_placing_counts" 775 3 6,
     .array "dirt_dist_2401_2800_placing_counts" 793 3 6,
     .array "dirt_dist_2801_placing_counts" 811 3 6, .array "sapporo_turf_placing_counts" 829 3 6,
     .array "hakodate_turf_placing_counts" 847 3 6,
     .array "fukushima_turf_placing_counts" 865 3 6, .array "niigata_turf_placing_counts" 883 3 6,
     .array "tokyo_turf_placing_counts" 901 3 6, .array "nakayama_turf_placing_counts" 919 3 6,
     .array "chukyo_turf_placing_counts" 937 3 6, .array "kyoto_turf_placing_counts" 955 3 6,
     .array "hanshin_turf_placing_counts" 973 3 6, .array "kokura_turf_placing_counts" 991 3 6,
     .array "sapporo_dirt_placing_counts" 1009 3 6,
     .array "hakodate_dirt_placing_counts" 1027 3 6,
     .array "fukushima_dirt_placing_counts" 1045 3 6,
     .array "niigata_dirt_placing_counts" 1063 3 6, .array "tokyo_dirt_placing_counts" 1081 3 6,
     .array "nakayama_dirt_placing_counts" 1099 3 6, .array "chukyo_dirt_placing_counts" 1117 3 6,
     .array "kyoto_dirt_placing_counts" 1135 3 6, .array "hanshin_dirt_placing_counts" 1153 3 6,
     .array "kokura_dirt_placing_counts" 1171 3 6,
     .array "sapporo_obstacle_placing_counts" 1189 3 6,
     .array "hakodate_obstacle_placing_counts" 1207 3 6,
     .array "fukushima_obstacle_placing_counts" 1225 3 6,
     .array "niigata_obstacle_placing_counts" 1243 3 6,
     .array "tokyo_obstacle_placing_counts" 1261 3 6,
     .array "nakayama_obstacle_placing_counts" 1279 3 6,
     .array "chukyo_obstacle_placing_counts" 1297 3 6,
     .array "kyoto_obstacle_placing_counts" 1315 3 6,
     .array "hanshin_obstacle_placing_counts" 1333 3 6,
     .array "kokura_obstacle_placing_counts" 1351 3 6, .array "running_style_counts" 1369 3 4,
     .text "registered_race_count" 1381 3, .text "jockey_code" 1384 5,
     .text "jockey_name" 1389 34,
     .objects "jockey_performance_stats" 1423 1220 2 .never jockeyStats,
     .text "trainer_code" 3863 5, .text "trainer_name" 3868 34,
     .objects "trainer_performance_stats" 3902 1220 2 .never jockeyStats,
     .text "owner_code" 6342 6, .text "owner_name_with_corp" 6348 64,
     .text "owner_name_individual" 6412 64,
     .objects "owner_performance_stats" 6476 60 2 .never ownerStats,
     .text "breeder_code" 6596 8, .text "breeder_name_with_corp" 6604 72,
     .text "breeder_name_individual" 6676 72,
     .objects "breeder_performance_stats" 6748 60 2 .never ownerStats]

def parseJGFields : List Statement :=
  withRaceHeader
    [.text "pedigree_reg_num" 27 10, .text "horse_name" 37 36, .text "entry_order" 73 3,
     .text "entry_code" 76 1, .text "exclusion_code" 77 1]

def parseDMFields : List Statement :=
  withRaceHeader
    [.text "data_creation_time" 27 4,
     .objects "mining_predictions" 31 15 18 .never
      [.text "horse_number" 0 2, .text "predicted_finish_time" 2 5, .text "error_margin_plus" 7 4,
       .text "error_margin_minus" 11 4]]

def parseTMFields : List Statement :=
  withRaceHeader
    [.text "data_creation_time" 27 4,
     .objects "mining_predictions" 31 6 18 .never
      [.text "horse_number" 0 2, .text "prediction_score" 2 4]]

def parseWFFields : List Statement :=
  withHeader
    [.text "meet_year" 11 4, .text "meet_date" 15 4,
     .objects "target_races" 21 8 5 .never
      [.text "racecourse_code" 0 2, .text "meet_round" 2 2, .text "meet_day" 4 2,
       .text "race_number" 6 2],
     .text "total_tickets_sold" 67 11, .array "valid_ticket_counts" 78 11 5,
     .text "refund_flag" 133 1, .text "void_flag" 134 1, .text "no_winner_flag" 135 1,
     .text "carryover_initial" 136 15, .text "carryover_remaining" 151 15,
     .objects "payout_info" 166 29 243 .never
      [.text "combination" 0 10, .text "payout" 10 9, .text "winning_tickets" 19 10]]

def parseWHFields : List Statement :=
  withRaceHeader
    [.text "announcement_datetime" 27 8,
     .objects "horse_weight_infos" 35 45 18 .never
      [.text "horse_number" 0 2, .text "horse_name" 2 36, .text "horse_weight" 38 3,
       .text "weight_change_sign" 41 1, .text "weight_change_diff" 42 3]]

def parseWEFields : List Statement :=
  withHeader
    [.text "meet_year" 11 4, .text "meet_date" 15 4, .text "racecourse_code" 19 2,
     .text "meet_round" 21 2, .text "meet_day" 23 2, .text "announcement_datetime" 25 8,
     .text "change_identifier" 33 1, .text "weather_code" 34 1,
     .text "turf_track_condition_code" 35 1, .text "dirt_track_condition_code" 36 1,
     .text "before_weather_code" 37 1, .text "before_turf_track_condition_code" 38 1,
     .text "before_dirt_track_condition_code" 39 1]

def parseAVFields : List Statement :=
  withRaceHeader
    [.text "announcement_datetime" 27 8, .text "horse_number" 35 2, .text "horse_name" 37 36,
     .text "exclusion_reason_code" 73 3]

def parseJCFields : List Statement :=
  withRaceHeader
    [.text "announcement_datetime" 27 8, .text "horse_number" 35 2, .text "horse_name" 37 36,
     .text "after_weight_carried" 73 3, .text "after_jockey_code" 76 5,
     .text "after_jockey_name" 81 34, .text "after_apprentice_code" 115 1,
     .text "before_weight_carried" 116 3, .text "before_jockey_code" 119 5,
     .text "before_jockey_name" 124 34, .text "before_apprentice_code" 158 1]

def parseTCFields : List Statement :=
  withRaceHeader
    [.text "announcement_datetime" 27 8, .text "after_post_time" 35 4,
     .text "before_post_time" 39 4]

def parseCCFields : List Statement :=
  withRaceHeader
    [.text "announcement_datetime" 27 8, .text "after_distance" 35 4,
     .text "after_track_code" 39 2, .text "before_distance" 41 4, .text "before_track_code" 45 2,
     .text "reason_code" 47 1]

end JVLinkServer.Records
