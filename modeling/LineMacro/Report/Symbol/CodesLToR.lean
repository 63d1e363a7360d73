/-!
# Reports — symbol codes from L to R

Codes of symbols in alphabetical order. An entry is the code, a colon, and the
code points of the symbol in hexadecimal with hyphens between them.
-/

namespace LineMacro

namespace Report

namespace Symbol

/-- The codes from L to R, with their symbols. -/
def codesLToR : List String :=
  ["lab_coat:1F97C label:1F3F7 lacrosse:1F94D lady_beetle:1F41E lantern:1F3EE laos:1F1F1-1F1E6",
    "laptop_computer:1F4BB large_blue_circle:1F535 large_blue_diamond:1F537",
    "large_orange_diamond:1F536 last_quarter_moon:1F317 last_quarter_moon_face:1F31C",
    "last_quarter_moon_with_face:1F31C last_track_button:23EE latin_cross:271D",
    "latvia:1F1F1-1F1FB laughing:1F606 leaf_fluttering_in_wind:1F343 leafy_green:1F96C",
    "leaves:1F343 lebanon:1F1F1-1F1E7 ledger:1F4D2 left-right_arrow:2194 left_arrow:2B05",
    "left_arrow_curving_right:21AA left_luggage:1F6C5 left_right_arrow:2194",
    "left_speech_bubble:1F5E8 leftwards_arrow_with_hook:21A9 leg:1F9B5 lemon:1F34B leo:264C",
    "leopard:1F406 lesotho:1F1F1-1F1F8 level_slider:1F39A liberia:1F1F1-1F1F7 libra:264E",
    "libya:1F1F1-1F1FE liechtenstein:1F1F1-1F1EE light_bulb:1F4A1 light_rail:1F688",
    "light_skin_tone:1F3FB link:1F517 linked_paperclips:1F587 lion_face:1F981 lips:1F444",
    "lipstick:1F484 lithuania:1F1F1-1F1F9 litter_in_bin_sign:1F6AE lizard:1F98E llama:1F999",
    "lobster:1F99E lock:1F512 lock_with_ink_pen:1F50F locked:1F512 locked_with_key:1F510",
    "locked_with_pen:1F50F locomotive:1F682 lollipop:1F36D loop:27BF lotion_bottle:1F9F4",
    "loud_sound:1F50A loudly_crying_face:1F62D loudspeaker:1F4E2 love_hotel:1F3E9",
    "love_letter:1F48C low_brightness:1F505 lower_left_ballpoint_pen:1F58A",
    "lower_left_crayon:1F58D lower_left_fountain_pen:1F58B lower_left_paintbrush:1F58C",
    "luggage:1F9F3 luxembourg:1F1F1-1F1FA lying_face:1F925 m:24C2 macau_sar_china:1F1F2-1F1F4",
    "macedonia:1F1F2-1F1F0 madagascar:1F1F2-1F1EC mag:1F50D mag_right:1F50E magnet:1F9F2",
    "magnifying_glass_tilted_left:1F50D magnifying_glass_tilted_right:1F50E mahjong:1F004",
    "mahjong_red_dragon:1F004 mailbox:1F4EB mailbox_closed:1F4EA mailbox_with_mail:1F4EC",
    "mailbox_with_no_mail:1F4ED malawi:1F1F2-1F1FC malaysia:1F1F2-1F1FE maldives:1F1F2-1F1FB",
    "male_sign:2642 mali:1F1F2-1F1F1 malta:1F1F2-1F1F9 man_and_woman_holding_hands:1F46B",
    "man_genie:1F9DE-200D-2642-FE0F man_in_business_suit_levitating:1F574",
    "man_in_manual_wheelchair:1F468-200D-1F9BD man_in_motorized_wheelchair:1F468-200D-1F9BC",
    "man_with_gua_pi_mao:1F472 man_with_probing_cane:1F468-200D-1F9AF man_with_turban:1F473",
    "man_zombie:1F9DF-200D-2642-FE0F mango:1F96D mans_shoe:1F45E mantelpiece_clock:1F570",
    "manual_wheelchair:1F9BD man’s_shoe:1F45E map_of_japan:1F5FE maple_leaf:1F341",
    "marshall_islands:1F1F2-1F1ED martial_arts_uniform:1F94B martinique:1F1F2-1F1F6 mask:1F637",
    "massage:1F486 mate:1F9C9 mauritania:1F1F2-1F1F7 mauritius:1F1F2-1F1FA mayotte:1F1FE-1F1F9",
    "meat_on_bone:1F356 mechanical_arm:1F9BE mechanical_leg:1F9BF medical_symbol:2695",
    "medium_dark_skin_tone:1F3FE medium_light_skin_tone:1F3FC medium_skin_tone:1F3FD mega:1F4E3",
    "megaphone:1F4E3 melon:1F348 memo:1F4DD men_with_bunny_ears:1F46F-200D-2642-FE0F",
    "men_wrestling:1F93C-200D-2642-FE0F menorah:1F54E menorah_with_nine_branches:1F54E",
    "mens:1F6B9 men’s_room:1F6B9 metro:1F687 mexico:1F1F2-1F1FD microbe:1F9A0",
    "micronesia:1F1EB-1F1F2 microphone:1F3A4 microscope:1F52C military_medal:1F396",
    "milky_way:1F30C minibus:1F690 minidisc:1F4BD moai:1F5FF mobile_phone:1F4F1",
    "mobile_phone_off:1F4F4 mobile_phone_with_arrow:1F4F2 moldova:1F1F2-1F1E9",
    "monaco:1F1F2-1F1E8 money-mouth_face:1F911 money__mouth_face:1F911 money_bag:1F4B0",
    "money_with_wings:1F4B8 moneybag:1F4B0 mongolia:1F1F2-1F1F3 monkey:1F412 monkey_face:1F435",
    "monorail:1F69D montenegro:1F1F2-1F1EA montserrat:1F1F2-1F1F8 moon:1F314 moon_cake:1F96E",
    "moon_viewing_ceremony:1F391 morocco:1F1F2-1F1E6 mortar_board:1F393 mosque:1F54C",
    "mosquito:1F99F motor_boat:1F6E5 motor_scooter:1F6F5 motorcycle:1F3CD",
    "motorized_wheelchair:1F9BC motorway:1F6E3 mount_fuji:1F5FB mountain:26F0",
    "mountain_bicyclist:1F6B5 mountain_cableway:1F6A0 mountain_railway:1F69E mouse:1F42D",
    "mouse2:1F401 mouse_face:1F42D mouth:1F444 movie_camera:1F3A5 moyai:1F5FF",
    "mozambique:1F1F2-1F1FF muscle:1F4AA mushroom:1F344 musical_keyboard:1F3B9",
    "musical_note:1F3B5 musical_notes:1F3B6 musical_score:1F3BC mute:1F507 muted_speaker:1F507",
    "myanmar_(burma):1F1F2-1F1F2 nail_care:1F485 name_badge:1F4DB namibia:1F1F3-1F1E6",
    "national_park:1F3DE nauru:1F1F3-1F1F7 nauseated_face:1F922 nazar_amulet:1F9FF",
    "necktie:1F454 negative_squared_cross_mark:274E nepal:1F1F3-1F1F5 nerd_face:1F913",
    "netherlands:1F1F3-1F1F1 neutral_face:1F610 new:1F195 new_button:1F195",
    "new_caledonia:1F1F3-1F1E8 new_moon:1F311 new_moon_face:1F31A new_moon_with_face:1F31A",
    "new_zealand:1F1F3-1F1FF newspaper:1F4F0 next_track_button:23ED ng:1F196 ng_button:1F196",
    "nicaragua:1F1F3-1F1EE niger:1F1F3-1F1EA nigeria:1F1F3-1F1EC night_with_stars:1F303",
    "nine:39-FE0F-20E3 nine-thirty:1F564 nine_o’clock:1F558 niue:1F1F3-1F1FA no_bell:1F515",
    "no_bicycles:1F6B3 no_entry:26D4 no_entry_sign:1F6AB no_good:1F645 no_littering:1F6AF",
    "no_mobile_phones:1F4F5 no_mouth:1F636 no_one_under_eighteen:1F51E no_pedestrians:1F6B7",
    "no_smoking:1F6AD non-potable_water:1F6B1 non__potable_water:1F6B1",
    "norfolk_island:1F1F3-1F1EB north_korea:1F1F0-1F1F5 northern_mariana_islands:1F1F2-1F1F5",
    "norway:1F1F3-1F1F4 notebook:1F4D3 notebook_with_decorative_cover:1F4D4 notes:1F3B6",
    "nut_and_bolt:1F529 o:2B55 o2:1F17E o_button_(blood_type):1F17E ocean:1F30A octopus:1F419",
    "oden:1F362 office:1F3E2 office_building:1F3E2 ogre:1F479 oil_drum:1F6E2 ok:1F197",
    "ok_button:1F197 ok_woman:1F646 old_key:1F5DD older_man:1F474 older_woman:1F475 om:1F549",
    "om_symbol:1F549 oman:1F1F4-1F1F2 on:1F51B on!_arrow:1F51B oncoming_automobile:1F698",
    "oncoming_bus:1F68D oncoming_police_car:1F694 oncoming_taxi:1F696 one:31-FE0F-20E3",
    "one-piece_swimsuit:1FA71 one-thirty:1F55C one_o’clock:1F550 onion:1F9C5 open_book:1F4D6",
    "open_file_folder:1F4C2 open_mailbox_with_lowered_flag:1F4ED",
    "open_mailbox_with_raised_flag:1F4EC open_mouth:1F62E ophiuchus:26CE optical_disk:1F4BF",
    "orange_book:1F4D9 orange_circle:1F7E0 orange_heart:1F9E1 orange_square:1F7E7",
    "orangutan:1F9A7 orthodox_cross:2626 otter:1F9A6 outbox_tray:1F4E4 owl:1F989 ox:1F402",
    "oyster:1F9AA p_button:1F17F package:1F4E6 page_facing_up:1F4C4 page_with_curl:1F4C3",
    "pager:1F4DF paintbrush:1F58C pakistan:1F1F5-1F1F0 palau:1F1F5-1F1FC",
    "palestinian_territories:1F1F5-1F1F8 palm_tree:1F334 panama:1F1F5-1F1E6 pancakes:1F95E",
    "panda_face:1F43C paperclip:1F4CE papua_new_guinea:1F1F5-1F1EC paraguay:1F1F5-1F1FE",
    "parking:1F17F parrot:1F99C part_alternation_mark:303D partly_sunny:26C5 party_popper:1F389",
    "partying_face:1F973 passenger_ship:1F6F3 passport_control:1F6C2 pause_button:23F8",
    "paw_prints:1F43E peace_symbol:262E peach:1F351 peacock:1F99A peanuts:1F95C pear:1F350",
    "pen:1F58A pencil:1F4DD pencil2:270F penguin:1F427 pensive:1F614 pensive_face:1F614",
    "people_holding_hands:1F9D1-200D-1F91D-200D-1F9D1 people_with_bunny_ears:1F46F",
    "people_wrestling:1F93C performing_arts:1F3AD persevere:1F623 persevering_face:1F623",
    "person_fencing:1F93A person_kneeling:1F9CE person_standing:1F9CD person_with_ball:26F9",
    "person_with_blond_hair:1F471 person_with_pouting_face:1F64E peru:1F1F5-1F1EA",
    "petri_dish:1F9EB philippines:1F1F5-1F1ED phone:260E pick:26CF pie:1F967 pig:1F437",
    "pig2:1F416 pig_face:1F437 pig_nose:1F43D pile_of_poo:1F4A9 pill:1F48A pinching_hand:1F90F",
    "pine_decoration:1F38D pineapple:1F34D ping_pong:1F3D3 pirate_flag:1F3F4-200D-2620-FE0F",
    "pisces:2653 pistol:1F52B pitcairn_islands:1F1F5-1F1F3 pizza:1F355 place_of_worship:1F6D0",
    "play_button:25B6 play_or_pause_button:23EF pleading_face:1F97A point_down:1F447",
    "point_left:1F448 point_right:1F449 point_up:261D point_up_2:1F446 poland:1F1F5-1F1F1",
    "police_car:1F693 police_car_light:1F6A8 poodle:1F429 pool_8_ball:1F3B1 poop:1F4A9",
    "popcorn:1F37F portugal:1F1F5-1F1F9 post_office:1F3E3 postal_horn:1F4EF postbox:1F4EE",
    "pot_of_food:1F372 potable_water:1F6B0 potato:1F954 pouch:1F45D poultry_leg:1F357",
    "pound:1F4B7 pound_banknote:1F4B7 pouting_cat:1F63E pouting_cat_face:1F63E",
    "pouting_face:1F621 pray:1F64F prayer_beads:1F4FF pretzel:1F968 printer:1F5A8",
    "probing_cane:1F9AF prohibited:1F6AB puerto_rico:1F1F5-1F1F7 punch:1F44A",
    "purple_circle:1F7E3 purple_heart:1F49C purple_square:1F7EA purse:1F45B pushpin:1F4CC",
    "put_litter_in_its_place:1F6AE qatar:1F1F6-1F1E6 question:2753 question_mark:2753",
    "rabbit:1F430 rabbit2:1F407 rabbit_face:1F430 raccoon:1F99D racehorse:1F40E",
    "racing_car:1F3CE racing_motorcycle:1F3CD radio:1F4FB radio_button:1F518 radioactive:2622",
    "radioactive_sign:2622 rage:1F621 railway_car:1F683 railway_track:1F6E4 rainbow:1F308",
    "rainbow_flag:1F3F3-FE0F-200D-1F308 raised_hand_with_fingers_splayed:1F590",
    "raised_hand_with_part_between_middle_and_ring_fingers:1F596 raised_hands:1F64C",
    "raising_hand:1F64B ram:1F40F ramen:1F35C rat:1F400 razor:1FA92 receipt:1F9FE",
    "record_button:23FA recycle:267B recycling_symbol:267B red-haired_man:1F468-200D-1F9B0",
    "red-haired_woman:1F469-200D-1F9B0 red_apple:1F34E red_car:1F697 red_circle:1F534",
    "red_envelope:1F9E7 red_hair:1F9B0 red_heart:2764 red_paper_lantern:1F3EE red_square:1F7E5",
    "red_triangle_pointed_down:1F53B red_triangle_pointed_up:1F53A regional_indicator_a:1F1E6",
    "regional_indicator_b:1F1E7 regional_indicator_c:1F1E8 regional_indicator_d:1F1E9",
    "regional_indicator_e:1F1EA regional_indicator_f:1F1EB regional_indicator_g:1F1EC",
    "regional_indicator_h:1F1ED regional_indicator_i:1F1EE regional_indicator_j:1F1EF",
    "regional_indicator_k:1F1F0 regional_indicator_l:1F1F1 regional_indicator_m:1F1F2",
    "regional_indicator_n:1F1F3 regional_indicator_o:1F1F4 regional_indicator_p:1F1F5",
    "regional_indicator_q:1F1F6 regional_indicator_r:1F1F7 regional_indicator_s:1F1F8",
    "regional_indicator_symbol_letter_a:1F1E6 regional_indicator_symbol_letter_b:1F1E7",
    "regional_indicator_symbol_letter_c:1F1E8 regional_indicator_symbol_letter_d:1F1E9",
    "regional_indicator_symbol_letter_e:1F1EA regional_indicator_symbol_letter_f:1F1EB",
    "regional_indicator_symbol_letter_g:1F1EC regional_indicator_symbol_letter_h:1F1ED",
    "regional_indicator_symbol_letter_i:1F1EE regional_indicator_symbol_letter_j:1F1EF",
    "regional_indicator_symbol_letter_k:1F1F0 regional_indicator_symbol_letter_l:1F1F1",
    "regional_indicator_symbol_letter_m:1F1F2 regional_indicator_symbol_letter_n:1F1F3",
    "regional_indicator_symbol_letter_o:1F1F4 regional_indicator_symbol_letter_p:1F1F5",
    "regional_indicator_symbol_letter_q:1F1F6 regional_indicator_symbol_letter_r:1F1F7",
    "regional_indicator_symbol_letter_s:1F1F8 regional_indicator_symbol_letter_t:1F1F9",
    "regional_indicator_symbol_letter_u:1F1FA regional_indicator_symbol_letter_v:1F1FB",
    "regional_indicator_symbol_letter_w:1F1FC regional_indicator_symbol_letter_x:1F1FD",
    "regional_indicator_symbol_letter_y:1F1FE regional_indicator_symbol_letter_z:1F1FF",
    "regional_indicator_t:1F1F9 regional_indicator_u:1F1FA regional_indicator_v:1F1FB",
    "regional_indicator_w:1F1FC regional_indicator_x:1F1FD regional_indicator_y:1F1FE",
    "regional_indicator_z:1F1FF registered:AE relaxed:263A relieved:1F60C relieved_face:1F60C",
    "reminder_ribbon:1F397 repeat:1F501 repeat_button:1F501 repeat_one:1F502",
    "repeat_single_button:1F502 rescue_worker’s_helmet:26D1 restroom:1F6BB reverse_button:25C0",
    "reversed_hand_with_middle_finger_extended:1F595 revolving_hearts:1F49E rewind:23EA",
    "rhinoceros:1F98F ribbon:1F380 rice:1F35A rice_ball:1F359 rice_cracker:1F358",
    "rice_scene:1F391 right_anger_bubble:1F5EF right_arrow:27A1 right_arrow_curving_down:2935",
    "right_arrow_curving_left:21A9 right_arrow_curving_up:2934 ring:1F48D ringed_planet:1FA90",
    "roasted_sweet_potato:1F360 robot:1F916 robot_face:1F916 rocket:1F680 roll_of_paper:1F9FB",
    "rolled-up_newspaper:1F5DE rolled__up_newspaper:1F5DE roller_coaster:1F3A2",
    "rolling_on_the_floor_laughing:1F923 romania:1F1F7-1F1F4 rooster:1F413 rose:1F339",
    "rosette:1F3F5 rotating_light:1F6A8 round_pushpin:1F4CD rowboat:1F6A3 rugby_football:1F3C9",
    "runner:1F3C3 running:1F3C3 running_shirt:1F3BD running_shirt_with_sash:1F3BD",
    "running_shoe:1F45F russia:1F1F7-1F1FA rwanda:1F1F7-1F1FC réunion:1F1F7-1F1EA"]

end Symbol

end Report

end LineMacro
